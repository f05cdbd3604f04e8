import Reckoner.Calculator
import Reckoner.Proofs.Descent
import Reckoner.Proofs.Faults

/-!
# Reading a text

Where a text starts matters only for the positions of errors (`lexFrom_add`). `Reads` is lexing
without them. A calculator has a tree for a text if and only if the text reads as tokens that parse
(`Calculator.tree_eq_ok_iff`).
-/

namespace Reckoner

variable {φ : Type}

/-- The error of a text that has `n` more characters in front. -/
def LexError.shift (n : Nat) : LexError → LexError
  | invalidNumber run p => invalidNumber run (p + n)
  | invalidToken c p => invalidToken c (p + n)

/-- What is lexed of a text that has `n` more characters in front, from where it starts. -/
def Lexed.shift (n : Nat) (l : Lexed φ) : Lexed φ :=
  ⟨l.tokens, l.error.map (·.shift n)⟩

theorem Lexed.shift_eq_iff {n : Nat} {l : Lexed φ} {ts : List (Token φ)} :
    l.shift n = ⟨ts, none⟩ ↔ l = ⟨ts, none⟩ := by
  obtain ⟨us, e⟩ := l
  simp [shift]

theorem Lexicon.lexFrom_add (L : Lexicon φ) (p n : Nat) (s : List Char) :
    L.lexFrom (p + n) s = (L.lexFrom p s).shift n := by
  fun_induction L.lexFrom p s with
  | case1 p => rw [lexFrom_nil]; rfl
  | case2 p c s hf => rw [lexFrom, hf]; rfl
  | @case3 p c s f hf next hl ih =>
    rw [lexFrom_of_front? hf, hl, ← ih]
    simp only [next, Nat.add_right_comm]
  | @case4 p c s f hf next t hl ih =>
    rw [lexFrom_of_front? hf, hl]
    show (L.lexFrom _ _).cons t = ((L.lexFrom next f.rest).shift n).cons t
    rw [← ih, Nat.add_right_comm]
  | @case5 p c s f hf next run hl x hx ih =>
    rw [lexFrom_of_front? hf, hl]
    simp only [readNumber_eq_ok_iff.mp hx]
    show (L.lexFrom _ _).cons _ = ((L.lexFrom next f.rest).shift n).cons _
    rw [← ih, Nat.add_right_comm]
  | @case6 p c s f hf run hl fault hx =>
    rw [lexFrom_of_front? hf, hl]
    simp only [(readNumber_eq_error_iff.mp hx).1]
    rfl

theorem Lexed.cons_eq_iff {t : Token φ} {l : Lexed φ} {ts : List (Token φ)} :
    l.cons t = ⟨ts, none⟩ ↔ ∃ us, ts = t :: us ∧ l = ⟨us, none⟩ := by
  obtain ⟨us, e⟩ := l
  simp only [cons, mk.injEq]
  constructor
  · rintro ⟨rfl, rfl⟩
    exact ⟨us, rfl, rfl, rfl⟩
  · rintro ⟨us, rfl, rfl, rfl⟩
    exact ⟨rfl, rfl⟩

section
variable {L : Lexicon φ} {p : Nat} {s : List Char} {ts : List (Token φ)}

/-- The text is lexed as `ts` to its end, at any position. -/
def Lexicon.Reads (L : Lexicon φ) (s : List Char) (ts : List (Token φ)) : Prop :=
  ∀ p, L.lexFrom p s = ⟨ts, none⟩

namespace Lexicon

theorem Reads.of_lexFrom (h : L.lexFrom p s = ⟨ts, none⟩) : L.Reads s ts := by
  intro q
  rw [← Nat.zero_add p, lexFrom_add, Lexed.shift_eq_iff] at h
  rw [← Nat.zero_add q, lexFrom_add, Lexed.shift_eq_iff, h]

theorem reads_iff : L.Reads s ts ↔ L.lexFrom p s = ⟨ts, none⟩ :=
  ⟨fun h => h p, .of_lexFrom⟩

theorem Reads.unique {us : List (Token φ)} (h : L.Reads s ts) (h' : L.Reads s us) : ts = us :=
  congrArg Lexed.tokens ((h 0).symm.trans (h' 0))

theorem Reads.lex_tokens {text : String} (h : L.Reads text.toList ts) : (L.lex text).tokens = ts :=
  congrArg Lexed.tokens (h 0)

end Lexicon
end

theorem Lexed.complete_eq_ok_iff {l : Lexed φ} {ts : List (Token φ)} :
    l.complete = .ok ts ↔ l = ⟨ts, none⟩ := by
  obtain ⟨us, e⟩ := l
  cases e <;> simp [complete]

theorem mapError_eq_ok_iff {ε ε' α : Type} {f : ε → ε'} {x : Except ε α} {a : α} :
    x.mapError f = .ok a ↔ x = .ok a := by
  cases x with
  | error e => constructor <;> rintro ⟨⟩
  | ok b => exact ⟨fun h => congrArg _ (Except.ok.inj h), fun h => congrArg _ (Except.ok.inj h)⟩

theorem Calculator.tree_eq_ok_iff {c : Calculator φ} {text : String} {t : Tree φ} :
    c.tree text = .ok t ↔ ∃ ts, c.lexicon.Reads text.toList ts ∧ parse ts = .ok t := by
  simp only [Lexicon.reads_iff (p := 0), ← Lexed.complete_eq_ok_iff]
  constructor
  · intro h
    obtain ⟨ts, hts, hp⟩ := exists_of_bind_eq_ok h
    exact ⟨ts, mapError_eq_ok_iff.mp hts, mapError_eq_ok_iff.mp hp⟩
  · rintro ⟨ts, hts, hp⟩
    have htokens : c.tokens text = .ok ts := mapError_eq_ok_iff.mpr hts
    rw [tree, htokens]
    exact mapError_eq_ok_iff.mpr hp

/-- Without tokens there is no operand. -/
theorem parse_nil : (parse [] : Except _ (Tree φ)) = .error .unexpectedEnd := by
  rw [parse, parseTokens_eq, found_nil]
  rfl

namespace Calculator
variable {c : Calculator φ} {text : String} {t : Tree φ} {e : ExpressionError φ}

theorem tree_empty (c : Calculator φ) : c.tree "" = .error (.parse .unexpectedEnd) := by
  have htokens : c.tokens "" = .ok [] := by
    rw [tokens, Lexicon.lex, String.toList_empty, Lexicon.lexFrom_nil]
    rfl
  rw [tree, htokens]
  show (parse []).mapError ExpressionError.parse = _
  rw [parse_nil]
  rfl

/-- A text that has a tree has its value. -/
theorem evaluate_of_tree [Callable φ] (h : c.tree text = .ok t) :
    c.evaluate text = .ok (t.eval c.mode) := by
  have hne : text.isEmpty = false := by
    rw [Bool.eq_false_iff]
    intro he
    rw [String.isEmpty_iff.mp he, tree_empty] at h
    cases h
  rw [evaluate_eq, hne, h]
  rfl

theorem evaluate_of_tree_error [Callable φ] (hne : text ≠ "") (h : c.tree text = .error e) :
    c.evaluate text = .error e := by
  have hne : text.isEmpty = false := Bool.eq_false_iff.mpr (mt String.isEmpty_iff.mp hne)
  rw [evaluate_eq, hne, h]
  rfl

end Calculator
end Reckoner
