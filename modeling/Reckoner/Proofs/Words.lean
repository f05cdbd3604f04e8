import Mathlib.Data.List.Chain
import Reckoner.Proofs.Scan

/-!
# Words with spaces between them

A text that is made of words, with any spaces in front of each and at the end, is lexed word by word
(`lexFrom_spaced`), where of two words that follow each other one is a symbol. A literal and a name
go on as far as they can, but both stop in front of a symbol or a space (`Breaks`). For names this
takes registers that are `Alphanumeric`: their names are made of the characters that carry a name
on, so that no name reaches over a break.
-/

namespace Reckoner
open Scan

variable {φ : Type}

/-- `s` is at its end, or a symbol or a space is in front of it. -/
def Breaks (s : List Char) : Prop :=
  ∀ c, s.head? = some c → Between c ∨ c ∈ Token.operatorChars

namespace Breaks
variable {s : List Char} {c : Char}

theorem nil : Breaks [] := by
  intro c h
  cases h

theorem between (h : Between c) : Breaks (c :: s) := by
  rintro c' ⟨⟩
  exact .inl h

theorem operator (h : c ∈ Token.operatorChars) : Breaks (c :: s) := by
  rintro c' ⟨⟩
  exact .inr h

theorem char_mem (h : Breaks s) (hc : s.head? = some c) :
    c ∈ ' ' :: '\n' :: Token.operatorChars := by
  rcases h c hc with (rfl | rfl) | ht
  · exact List.mem_cons_self ..
  · exact List.mem_cons_of_mem _ (List.mem_cons_self ..)
  · exact List.mem_cons_of_mem _ (List.mem_cons_of_mem _ ht)

theorem gap {gap : List Char} (hgap : ∀ c ∈ gap, Between c) (h : Breaks s) : Breaks (gap ++ s) := by
  cases gap with
  | nil => exact h
  | cons c gap => exact .between (hgap c (List.mem_cons_self ..))

theorem not_inNumber (h : Breaks s) : ∀ c, s.head? = some c → ¬ InNumber c := by
  intro c hc hn
  have := (plain_of_mem (h.char_mem hc)).1
  rw [(isNumberChar_iff c).mpr hn] at this
  cases this

theorem endsBefore (h : Breaks s) : Lexicon.EndsBefore s :=
  fun _ hc => (plain_of_mem (h.char_mem hc)).2

end Breaks

theorem breaks_iff {s : List Char} :
    Breaks s ↔ s.head?.all (fun c => c ∈ ' ' :: '\n' :: Token.operatorChars) = true := by
  rw [Option.all_eq_true]
  constructor
  · exact fun h c hc => decide_eq_true (h.char_mem hc)
  · intro h c hc
    have hmem := of_decide_eq_true (h c hc)
    rw [List.mem_cons, List.mem_cons] at hmem
    rcases hmem with rfl | rfl | hop
    · exact .inl (.inl rfl)
    · exact .inl (.inr rfl)
    · exact .inr hop

instance (s : List Char) : Decidable (Breaks s) :=
  decidable_of_iff' _ breaks_iff

/-- The names of the registers are not empty and made of letters and numbers. -/
structure Registers.Alphanumeric (r : Registers φ) : Prop where
  ne_empty : "" ∉ r.names
  nameChars : ∀ n ∈ r.names, ∀ c ∈ n.toList, Text.isNameChar c = true

/-- A registered name is the longest one where it may end: a longer one would contain the character
behind it. -/
theorem Registers.Alphanumeric.longest {r : Registers φ} (hr : r.Alphanumeric)
    {name rest : List Char} (hn : String.ofList name ∈ r.names) (hend : Lexicon.EndsBefore rest) :
    r.Longest name rest := by
  refine ⟨hn, hend, fun other rest' ho hor _ => ?_⟩
  rcases List.append_eq_append_iff.mp hor with ⟨more, rfl, hmore⟩ | ⟨more, rfl, -⟩
  · cases more with
    | nil => simp
    | cons c more =>
      have hc : Text.isNameChar c = true := by
        refine hr.nameChars _ ho c ?_
        rw [String.toList_ofList]
        simp
      rw [hend c (by rw [hmore]; rfl)] at hc
      cases hc
  · simp

/-! ### Words -/

/-- How an operator is written. -/
def BinaryOperator.symbol : BinaryOperator → Char
  | plus => '+'
  | minus => '-'
  | multiply => '*'
  | divide => '/'
  | exponent => '^'

/-- A word of an expression as it is written: a literal, a symbol, or the name of a function. -/
inductive Word (φ : Type) where
  | literal (run : List Char)
  | operator (op : BinaryOperator)
  | openParen
  | closeParen
  | function (f : UnaryFunction φ)

namespace Word

def text : Word φ → List Char
  | literal run => run
  | operator op => [op.symbol]
  | openParen => ['(']
  | closeParen => [')']
  | function f => f.name.toList

/-- Whether a word is a single character that nothing can be joined to. -/
def isSymbol : Word φ → Bool
  | operator _ | openParen | closeParen => true
  | literal _ | function _ => false

end Word

/-- The function that is read from the name of `f`. -/
def Registers.current (r : Registers φ) (f : UnaryFunction φ) : UnaryFunction φ :=
  (r.function? f.name).getD f

namespace Word

/-- The token that a word is read as. -/
def token (r : Registers φ) : Word φ → Token φ
  | literal run => .number (Number.ofLiteral run)
  | operator op => .operator op
  | openParen => .openParen
  | closeParen => .closeParen
  | function f => .function (r.current f)

/-- A literal is one, and a function is registered. -/
def Valid (r : Registers φ) : Word φ → Prop
  | literal run => Number.isLiteral run = true
  | function f => f ∈ r.functions
  | _ => True

theorem mem_operators_of_isSymbol {r : Registers φ} {w : Word φ} (h : w.isSymbol = true) :
    ∃ c, w.text = [c] ∧ (c, w.token r) ∈ operators := by
  cases w with
  | literal run => cases h
  | function f => cases h
  | operator op => exact ⟨_, rfl, by cases op <;> simp [operators, BinaryOperator.symbol, token]⟩
  | openParen => exact ⟨_, rfl, by simp [operators, token]⟩
  | closeParen => exact ⟨_, rfl, by simp [operators, token]⟩

end Word

/-- The words with any spaces and newlines in front of each and behind the last. -/
inductive Spaced : List (Word φ) → List Char → Prop
  | nil {gap : List Char} (hgap : ∀ c ∈ gap, Between c) : Spaced [] gap
  | cons {gap text : List Char} {w : Word φ} {ws : List (Word φ)} (hgap : ∀ c ∈ gap, Between c)
      (h : Spaced ws text) : Spaced (w :: ws) (gap ++ w.text ++ text)

namespace Spaced
variable {ws : List (Word φ)} {text : List Char}

theorem word (w : Word φ) (h : Spaced ws text) : Spaced (w :: ws) (w.text ++ text) :=
  .cons (List.forall_mem_nil _) h

theorem space {c : Char} (hc : Between c) (h : Spaced ws text) : Spaced ws (c :: text) := by
  cases h with
  | nil hgap => exact .nil (List.forall_mem_cons.mpr ⟨hc, hgap⟩)
  | cons hgap h => exact .cons (List.forall_mem_cons.mpr ⟨hc, hgap⟩) h

end Spaced

/-- Of two words that follow each other one is a symbol. -/
def Word.Apart (v w : Word φ) : Prop :=
  v.isSymbol = true ∨ w.isSymbol = true

/-- Names of registers that no literal and no symbol starts like. -/
structure Registers.WellNamed (r : Registers φ) : Prop extends r.Alphanumeric where
  no_digit : ∀ n ∈ r.names, ∀ c, n.toList.head? = some c → c.isDigit = false

theorem Registers.wellNamed_iff {r : Registers φ} : r.WellNamed ↔ r.names.all (fun n =>
    n ≠ "" && n.toList.all Text.isNameChar && n.toList.head?.all fun c => !c.isDigit) = true := by
  simp only [List.all_eq_true, Bool.and_eq_true, decide_eq_true_eq]
  constructor
  · intro h n hn
    refine ⟨⟨fun he => h.ne_empty (he ▸ hn), h.nameChars n hn⟩, ?_⟩
    cases hc : n.toList.head? with
    | none => rfl
    | some c => simp [h.no_digit n hn c hc]
  · intro h
    refine ⟨⟨fun hn => (h _ hn).1.1 rfl, fun n hn => (h n hn).1.2⟩, fun n hn c hc => ?_⟩
    have hd := (h n hn).2
    rw [hc] at hd
    simpa using hd

instance (r : Registers φ) : Decidable r.WellNamed :=
  decidable_of_iff' _ Registers.wellNamed_iff

theorem atMostName_of_isNameChar {c : Char} (hc : Text.isNameChar c = true)
    (hd : c.isDigit = false) : AtMostName c := by
  have hno : c ∉ ' ' :: '\n' :: Token.operatorChars := by
    intro hmem
    have := (plain_of_mem hmem).2
    rw [hc] at this
    cases this
  refine ⟨?_, fun hop => hno (List.mem_append_right [' ', '\n'] hop), ?_⟩
  · rintro (h | rfl)
    · rw [hd] at h; cases h
    · exact absurd hc (by decide +kernel)
  · rintro (rfl | rfl)
    · exact hno (by simp)
    · exact hno (by simp)

theorem Registers.WellNamed.exists_head {r : Registers φ} (hr : r.WellNamed) {n : String}
    (hn : n ∈ r.names) : ∃ c s, n.toList = c :: s ∧ AtMostName c := by
  obtain ⟨c, s, hs⟩ : ∃ c s, n.toList = c :: s :=
    List.exists_cons_of_ne_nil fun h => hr.ne_empty (String.toList_eq_nil_iff.mp h ▸ hn)
  have hmem : c ∈ n.toList := by
    rw [hs]
    exact List.mem_cons_self ..
  have hd : c.isDigit = false := hr.no_digit n hn c (by rw [hs]; rfl)
  exact ⟨c, s, hs, atMostName_of_isNameChar (hr.nameChars n hn c hmem) hd⟩

theorem Registers.exists_function? {r : Registers φ} {f : UnaryFunction φ} (hf : f ∈ r.functions) :
    r.function? f.name = some (r.current f) := by
  cases h : r.function? f.name with
  | none => exact absurd rfl (function?_eq_none_iff.mp h f hf)
  | some g => rw [current, h]; rfl

theorem Registers.means_current {r : Registers φ} {f : UnaryFunction φ} (hf : f ∈ r.functions) :
    r.Means f.name (.function (r.current f)) := by
  rw [← token?_eq_some_iff, token?, exists_function? hf]

theorem Registers.name_mem_names {r : Registers φ} {f : UnaryFunction φ} (hf : f ∈ r.functions) :
    f.name ∈ r.names :=
  (means_current hf).mem_names

namespace Word
variable {r : Registers φ} {w : Word φ}

theorem exists_head (hr : r.WellNamed) (hw : w.Valid r) :
    ∃ c s, w.text = c :: s ∧ ¬ Between c := by
  cases hs : w.isSymbol with
  | true =>
    obtain ⟨c, hc, hmem⟩ := mem_operators_of_isSymbol (r := r) hs
    have hall : Token.operatorChars.all (fun c => !isSpace c) = true := by decide
    refine ⟨c, [], hc, fun hb => ?_⟩
    have := List.all_eq_true.mp hall _ (mem_operatorChars hmem)
    rw [(isSpace_iff c).mpr hb] at this
    cases this
  | false =>
    cases w with
    | literal run =>
      obtain ⟨hall, ⟨c, hc, -⟩, -⟩ := isLiteral_iff.mp hw
      obtain ⟨d, run, rfl⟩ := List.exists_cons_of_ne_nil (List.ne_nil_of_mem hc)
      exact ⟨d, run, rfl, fun hb =>
        (Breaks.between (s := run) hb).not_inNumber d rfl (hall d (List.mem_cons_self ..))⟩
    | function f =>
      obtain ⟨c, s, hs, hc⟩ := hr.exists_head (Registers.name_mem_names hw)
      exact ⟨c, s, hs, hc.2.2⟩
    | operator op => cases hs
    | openParen => cases hs
    | closeParen => cases hs

end Word

section
variable {r : Registers φ} {L : Lexicon φ} {p : Nat}

theorem lexFrom_gap {gap rest : List Char} (hgap : ∀ c ∈ gap, Between c)
    (hrest : ∀ c, rest.head? = some c → ¬ Between c) :
    L.lexFrom p (gap ++ rest) = L.lexFrom (p + gap.length) rest := by
  by_cases hne : gap = []
  · subst hne; rfl
  · exact lexFrom_between ⟨hne, hgap, hrest⟩

/-- A registered name in front of a break is read, whatever other names start like it. -/
theorem lexFrom_registered (hL : L.Lists r) (hr : r.WellNamed) {n : String} {t : Token φ}
    (hm : r.Means n t) {rest : List Char} (hb : Breaks rest) :
    L.lexFrom p (n.toList ++ rest) = (L.lexFrom (p + n.toList.length) rest).cons t := by
  obtain ⟨c, s, hs, hc⟩ := hr.exists_head hm.mem_names
  have hhead : ∀ c', (n.toList ++ rest).head? = some c' → AtMostName c' := by
    rw [hs]
    exact atMostName_of_head? hc
  rw [← String.ofList_toList (s := n)] at hm
  exact lexFrom_longest hL hr.ne_empty hhead (hr.longest hm.mem_names hb.endsBefore) hm

/-- A word is lexed as its token if it is a symbol or a break is behind it. -/
theorem lexFrom_word (hL : L.Lists r) (hr : r.WellNamed) {w : Word φ} (hw : w.Valid r)
    {rest : List Char} (hb : w.isSymbol = true ∨ Breaks rest) :
    L.lexFrom p (w.text ++ rest) = (L.lexFrom (p + w.text.length) rest).cons (w.token r) := by
  rcases hb with hs | hb
  · obtain ⟨c, hc, hmem⟩ := Word.mem_operators_of_isSymbol (r := r) hs
    rw [hc]
    exact Lexicon.lexFrom_operator (mem_operators_iff.mp hmem)
  · cases w with
    | literal run =>
      obtain ⟨hall, hnum⟩ := isLiteral_iff.mp hw
      have hne : run ≠ [] := by
        obtain ⟨⟨c, hc, -⟩, -⟩ := hnum
        exact List.ne_nil_of_mem hc
      show L.lexFrom p (run ++ rest) = _
      rw [lexFrom_number ⟨hne, hall, hb.not_inNumber⟩, ofLiteral?_of_isNumber hall hnum]
      rfl
    | function f => exact lexFrom_registered hL hr (Registers.means_current hw) hb
    | operator op => exact Lexicon.lexFrom_operator (by cases op <;> rfl)
    | openParen => exact Lexicon.lexFrom_operator rfl
    | closeParen => exact Lexicon.lexFrom_operator rfl

theorem Spaced.breaks {ws : List (Word φ)} {text : List Char} (h : Spaced ws text)
    (hsym : ∀ w ∈ ws.head?, w.isSymbol = true) : Breaks text := by
  cases h with
  | nil hgap =>
    rw [← List.append_nil text]
    exact .gap hgap .nil
  | @cons _ text w ws hgap _ =>
    obtain ⟨c, hc, hmem⟩ := Word.mem_operators_of_isSymbol (r := ⟨[], []⟩) (hsym w rfl)
    rw [List.append_assoc, hc]
    exact .gap hgap (.operator (mem_operatorChars hmem))

/-- The text of words is lexed as their tokens, to its end. -/
theorem lexFrom_spaced (hL : L.Lists r) (hr : r.WellNamed) {ws : List (Word φ)} {text : List Char}
    (hs : Spaced ws text) (hv : ∀ w ∈ ws, w.Valid r) (hc : ws.IsChain Word.Apart) (p : Nat) :
    L.lexFrom p text = ⟨ws.map (Word.token r), none⟩ := by
  induction hs generalizing p with
  | @nil text hgap =>
    rw [← List.append_nil text, lexFrom_gap hgap (fun c hc => by cases hc), Lexicon.lexFrom_nil]
    rfl
  | @cons gap text w ws hgap hs ih =>
    obtain ⟨hw, hv⟩ := List.forall_mem_cons.mp hv
    obtain ⟨hapart, hc⟩ := List.isChain_cons.mp hc
    obtain ⟨c, s, htext, hb⟩ := Word.exists_head hr hw
    have hhead : ∀ c', (w.text ++ text).head? = some c' → ¬ Between c' := by
      rw [htext]
      rintro c' ⟨⟩
      exact hb
    have hbreak : w.isSymbol = true ∨ Breaks text := by
      by_cases hsym : w.isSymbol = true
      · exact .inl hsym
      · exact .inr (hs.breaks fun w' hw' => (hapart w' hw').resolve_left hsym)
    rw [List.append_assoc, lexFrom_gap hgap hhead, lexFrom_word hL hr hw hbreak, ih hv hc]
    rfl

end

end Reckoner
