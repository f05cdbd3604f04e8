import Reckoner.Proofs.Lexemes

/-!
# Faults in words

A template is read as it was written (`Template.ofChars_written`): every message with places in it
can be said by one, braces and all. Rewording keeps what succeeded and what the user did wrong, and
says all else in the words of its template (`reword_eq_error_iff`), so of two rewordings the inner
one has the word (`reword_mapError_reword`). What the lexer says of a run that is no number comes of
rewording, and it is the fault that the lexer reports (`readNumber_eq_error_iff`).
-/

namespace Reckoner

/-- How a piece is written: braces doubled, an index between braces. -/
def Piece.written : Piece → List Char
  | .character c => if c = '{' ∨ c = '}' then [c, c] else [c]
  | .place index => '{' :: (Nat.toDigits 10 index ++ ['}'])

namespace Template

/-- How a template is written. -/
def written (template : Template) : List Char :=
  template.flatMap Piece.written

theorem isDigit_of_mem_toDigits {n : Nat} {c : Char} (h : c ∈ Nat.toDigits 10 n) :
    c.isDigit = true :=
  Nat.isDigit_of_mem_toDigits (by decide) (by decide) h

/-- An index is read up to the brace behind it. -/
theorem ofChars_index (n : Nat) (text : List Char) :
    ofChars ('{' :: (Nat.toDigits 10 n ++ '}' :: text)) = .place n :: ofChars text := by
  have hends : Stops Char.isDigit ('}' :: text) := .cons rfl
  have hvalue : Number.ofDigits 0 (Nat.toDigits 10 n) = n := Nat.ofDigitChars_ten_toDigits
  rw [ofChars.eq_4, hends.takeWhile_append fun _ => isDigit_of_mem_toDigits,
    hends.dropWhile_append fun _ => isDigit_of_mem_toDigits, hvalue]
  · rfl
  · -- an index begins with a digit, so the brace is not a doubled one
    intro rest h
    obtain ⟨d, ds, hd⟩ := List.exists_cons_of_ne_nil (Nat.toDigits_ne_nil (n := n) (b := 10))
    have hmem : d ∈ Nat.toDigits 10 n := hd ▸ List.mem_cons_self
    rw [hd] at h
    cases h
    exact absurd (isDigit_of_mem_toDigits hmem) (by decide)

/-- A piece is read back, whatever is written behind it. -/
theorem ofChars_written_append (piece : Piece) (text : List Char) :
    ofChars (piece.written ++ text) = piece :: ofChars text := by
  cases piece with
  | character c =>
    rw [Piece.written]
    by_cases h : c = '{' ∨ c = '}'
    · rw [if_pos h]
      rcases h with rfl | rfl
      · exact ofChars.eq_2 text
      · exact ofChars.eq_3 text
    · rw [if_neg h]
      obtain ⟨hopen, hclose⟩ := not_or.mp h
      exact ofChars.eq_5 c text (fun _ h => absurd h hopen) (fun _ h => absurd h hclose) hopen
  | place n =>
    rw [Piece.written, List.cons_append, List.append_assoc]
    exact ofChars_index n text

/-- A template is read back from the way it is written. -/
theorem ofChars_written (template : Template) : ofChars template.written = template := by
  induction template with
  | nil => exact ofChars.eq_1
  | cons piece template ih =>
    rw [written, List.flatMap_cons, ofChars_written_append]
    exact congrArg (piece :: ·) ih

variable (arguments : List String)

theorem fill_append (s t : Template) :
    (s ++ t).fill arguments = s.fill arguments ++ t.fill arguments := by
  simp only [fill, List.map_append, String.join_append]

theorem fill_characters (text : List Char) :
    fill (text.map .character) arguments = String.ofList text := by
  induction text with
  | nil => rfl
  | cons c text ih =>
    rw [List.map_cons, ← List.singleton_append, fill_append, ih, ← String.toList_inj]
    simp [fill]

theorem fill_place (n : Nat) : fill [.place n] arguments = arguments.getD n "" := by
  simp [fill]

end Template

section
variable {ε α : Type} {template : Template} {kind : FaultKind} {arguments : List String}
  {x : Except (Fault ε) α}

theorem reword_eq_ok_iff {a : α} : reword template kind arguments x = .ok a ↔ x = .ok a := by
  cases x with
  | ok b => simp [reword]
  | error fault => cases fault <;> exact ⟨(nomatch ·), (nomatch ·)⟩

/-- A fault is one of the user's own, or one from elsewhere in other words. -/
theorem reword_eq_error_iff {fault : UserFault ε} :
    reword template kind arguments x = .error fault ↔
      x = .error (.user fault) ∨
        ∃ cause, x = .error (.elsewhere cause) ∧
          fault = ⟨kind, template.fill arguments, some cause⟩ := by
  cases x with
  | ok b => simp [reword]
  | error f =>
    cases f with
    | user f => simp [reword]
    | elsewhere cause => simp [reword, eq_comm]

/-- What has been reworded is a fault of the user, so to reword it again changes nothing. -/
theorem reword_mapError_reword (template' : Template) (kind' : FaultKind)
    (arguments' : List String) :
    reword template' kind' arguments' ((reword template kind arguments x).mapError .user) =
      reword template kind arguments x := by
  cases h : reword template kind arguments x <;> rfl

end

/-! ### The lexer's own -/

theorem numberTemplate_eq :
    numberTemplate = "Invalid number '".toList.map .character ++ [.place 1] ++
      "' at position: ".toList.map .character ++ [.place 2] := by
  rw [← Template.ofChars_written (_ ++ _)]
  exact congrArg Template.ofChars (by decide)

theorem LexError.message_invalidNumber (run : List Char) (p : Nat) :
    (invalidNumber run p).message =
      "Invalid number '" ++ String.ofList run ++ "' at position: " ++ toString p := by
  show numberTemplate.fill (numberArguments run p) = _
  rw [numberTemplate_eq]
  simp only [Template.fill_append, Template.fill_characters, Template.fill_place,
    String.ofList_toList]
  rfl

theorem readNumber_eq_ok_iff {run : List Char} {p : Nat} {x : Float} :
    readNumber run p = .ok x ↔ Number.ofLiteral? run = some x := by
  rw [readNumber_eq]
  cases Number.ofLiteral? run <;> simp

/-- A run is refused if it is no number, with the fault that the lexer reports. -/
theorem readNumber_eq_error_iff {run : List Char} {p : Nat} {fault : UserFault (List Char)} :
    readNumber run p = .error fault ↔
      Number.ofLiteral? run = none ∧ fault = (LexError.invalidNumber run p).fault := by
  rw [readNumber_eq]
  cases Number.ofLiteral? run <;> simp [eq_comm]

end Reckoner
