import Reckoner.Lexer

/-!
# Lexing, lexeme by lexeme

What `Lexicon.lexFrom` does with a lexeme in front of a text, an equation for each kind. A run of
characters of one class is cut off as a whole where it is maximal, that is, where the text behind it
starts with none of them (`Stops`). A name is cut off where no other kind can start (`OpensName`).
-/

namespace Reckoner

variable {φ : Type}

/-- `s` does not start with a character of the class `p`. -/
def Stops (p : Char → Bool) (s : List Char) : Prop :=
  ∀ c, s.head? = some c → p c = false

namespace Stops
variable {p : Char → Bool}

theorem nil : Stops p [] := by
  intro c h
  cases h

theorem cons {c : Char} {s : List Char} (h : p c = false) : Stops p (c :: s) := by
  intro c' hc
  cases hc
  exact h

theorem dropWhile (s : List Char) : Stops p (s.dropWhile p) := by
  intro c hc
  have := List.head?_dropWhile_not p s
  rw [hc] at this
  simpa using this

theorem takeWhile_append {run rest : List Char} (hrun : ∀ c ∈ run, p c = true) (h : Stops p rest) :
    (run ++ rest).takeWhile p = run := by
  rw [List.takeWhile_append_of_pos hrun]
  cases rest with
  | nil => exact List.append_nil run
  | cons c rest => rw [List.takeWhile_cons_of_neg (by simp [h c rfl]), List.append_nil]

theorem dropWhile_append {run rest : List Char} (hrun : ∀ c ∈ run, p c = true) (h : Stops p rest) :
    (run ++ rest).dropWhile p = rest := by
  rw [List.dropWhile_append_of_pos hrun]
  cases rest with
  | nil => rfl
  | cons c rest => exact List.dropWhile_cons_of_neg (by simp [h c rfl])

end Stops

/-- No number, operator or space starts with `c`, so that a name may. -/
structure OpensName (c : Char) : Prop where
  number : isNumberChar c = false
  operator : c ∉ Token.operatorChars
  space : isSpace c = false

theorem OpensName.ofOperatorChar? {c : Char} (h : OpensName c) :
    (Token.ofOperatorChar? c : Option (Token φ)) = none :=
  Option.not_isSome_iff_eq_none.mp (mt (Token.mem_operatorChars_iff c).mpr h.operator)

/-- What stands between names and numbers is part of neither. -/
theorem plain_of_mem {c : Char} (h : c ∈ ' ' :: '\n' :: Token.operatorChars) :
    isNumberChar c = false ∧ Text.isNameChar c = false := by
  have hall : (' ' :: '\n' :: Token.operatorChars).all
      (fun c => !isNumberChar c && !Text.isNameChar c) = true := by decide +kernel
  simpa using List.all_eq_true.mp hall c h

theorem isNumberChar_of_ofOperatorChar? {c : Char} {t : Token φ}
    (h : Token.ofOperatorChar? c = some t) : isNumberChar c = false := by
  have hc : c ∈ Token.operatorChars := (Token.mem_operatorChars_iff c).mpr (by rw [h]; rfl)
  exact (plain_of_mem (List.mem_append_right [' ', '\n'] hc)).1

theorem readNumber_eq (run : List Char) (p : Nat) :
    readNumber run p =
      match Number.ofLiteral? run with
      | some x => .ok x
      | none => .error (LexError.invalidNumber run p).fault := by
  unfold readNumber
  cases Number.ofLiteral? run <;> rfl

namespace Lexicon
variable {L : Lexicon φ} {p : Nat} {c : Char} {s run rest : List Char}

theorem lexFrom_nil : L.lexFrom p [] = ⟨[], none⟩ := by
  rw [lexFrom]

theorem lexFrom_of_front? {f : Front φ (c :: s)} (h : L.front? (c :: s) = some f) :
    L.lexFrom p (c :: s) =
      match f.lexeme with
      | .space => L.lexFrom (p + f.text.length) f.rest
      | .token t => (L.lexFrom (p + f.text.length) f.rest).cons t
      | .number run =>
        match Number.ofLiteral? run with
        | some x => (L.lexFrom (p + f.text.length) f.rest).cons (.number x)
        | none => ⟨[], some (.invalidNumber run p)⟩ := by
  have hstep := lexFrom.eq_2 L p c s
  rw [h] at hstep
  rw [hstep]
  dsimp only
  cases f.lexeme with
  | space => rfl
  | token t => rfl
  | number run =>
    simp only [readNumber_eq]
    cases Number.ofLiteral? run <;> rfl

theorem lexFrom_run (hne : run ≠ []) (hrun : ∀ c ∈ run, isNumberChar c = true)
    (h : Stops isNumberChar rest) :
    L.lexFrom p (run ++ rest) =
      match Number.ofLiteral? run with
      | some x => (L.lexFrom (p + run.length) rest).cons (.number x)
      | none => ⟨[], some (.invalidNumber run p)⟩ := by
  obtain ⟨c, run, rfl⟩ := List.exists_cons_of_ne_nil hne
  obtain ⟨hc, hrun⟩ := List.forall_mem_cons.mp hrun
  rw [List.cons_append, lexFrom_of_front? (by rw [front?, if_pos hc])]
  simp only [h.takeWhile_append hrun, h.dropWhile_append hrun]

theorem lexFrom_operator {t : Token φ} (h : Token.ofOperatorChar? c = some t) :
    L.lexFrom p (c :: s) = (L.lexFrom (p + 1) s).cons t := by
  have hf : L.front? (c :: s) = some ⟨.token t, [c], s, rfl, List.cons_ne_nil _ _⟩ := by
    rw [front?, isNumberChar_of_ofOperatorChar? h]
    simp only [Bool.false_eq_true, ↓reduceIte]
    split
    · next h' => rw [h] at h'; cases h'; rfl
    · next h' => rw [h] at h'; cases h'
  rw [lexFrom_of_front? hf]
  rfl

theorem lexFrom_space (hne : run ≠ []) (hrun : ∀ c ∈ run, isSpace c = true) (h : Stops isSpace rest) :
    L.lexFrom p (run ++ rest) = L.lexFrom (p + run.length) rest := by
  obtain ⟨c, run, rfl⟩ := List.exists_cons_of_ne_nil hne
  obtain ⟨hc, hrun⟩ := List.forall_mem_cons.mp hrun
  have hn : isNumberChar c = false ∧ (Token.ofOperatorChar? c : Option (Token φ)) = none := by
    simp only [isSpace, Bool.or_eq_true, beq_iff_eq] at hc
    rcases hc with rfl | rfl <;> exact ⟨rfl, rfl⟩
  have hf : L.front? (c :: (run ++ rest)) = some ⟨.space, c :: (run ++ rest).takeWhile isSpace,
      (run ++ rest).dropWhile isSpace, congrArg (c :: ·) List.takeWhile_append_dropWhile,
      List.cons_ne_nil _ _⟩ := by
    simp only [front?, hn.1, hn.2, hc, Bool.false_eq_true, ↓reduceIte]
  rw [List.cons_append, lexFrom_of_front? hf]
  simp only [h.takeWhile_append hrun, h.dropWhile_append hrun]

theorem lexFrom_name {name : List Char} {t : Token φ}
    (hopen : ∀ c, (name ++ rest).head? = some c → OpensName c)
    (h : L.entryAt? (name ++ rest) = some (name, t)) :
    L.lexFrom p (name ++ rest) = (L.lexFrom (p + name.length) rest).cons t := by
  obtain ⟨c, s, hs⟩ : ∃ c s, name ++ rest = c :: s :=
    List.exists_cons_of_ne_nil fun h' => by
      have := length_pos_of_entryAt? h
      rw [(List.append_eq_nil_iff.mp h').1] at this
      exact Nat.lt_irrefl _ this
  have hc := hopen c (by rw [hs]; rfl)
  rw [hs] at h
  have hf : L.front? (c :: s) = some ⟨.token t, (c :: s).take name.length,
      (c :: s).drop name.length, List.take_append_drop _ _, take_ne_nil_of_entryAt? h⟩ := by
    simp only [front?, hc.number, hc.ofOperatorChar?, hc.space, Bool.false_eq_true, ↓reduceIte]
    split
    · next e he => rw [h] at he; cases he; rfl
    · next he => rw [h] at he; cases he
  rw [hs, lexFrom_of_front? hf]
  simp only [← hs, List.take_left, List.drop_left]

theorem lexFrom_none (hc : OpensName c) (h : L.entryAt? (c :: s) = none) :
    L.lexFrom p (c :: s) = ⟨[], some (.invalidToken c p)⟩ := by
  have hf : L.front? (c :: s) = none := by
    simp only [front?, hc.number, hc.ofOperatorChar?, hc.space, Bool.false_eq_true, ↓reduceIte]
    split
    · next e he => rw [h] at he; cases he
    · rfl
  rw [lexFrom, hf]

end Lexicon
end Reckoner
