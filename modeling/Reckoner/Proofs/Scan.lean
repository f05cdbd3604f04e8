import Reckoner.Proofs.Faults
import Reckoner.Proofs.Names

/-!
# The reference scan

`Scans` says what a text is cut into, rule by rule and with no lexicon: at each position a maximal
run of digits and points, an operator, a maximal run of spaces, or the longest name, in this order of
preference. No rule fixes an order of names. A text has one scan, and lexing finds it, with every
lexicon that lists the names longest first.
-/

namespace Reckoner

variable {φ : Type}

namespace Scan

/-- The operators with their tokens. -/
def operators : List (Char × Token φ) :=
  [('+', .operator .plus), ('-', .operator .minus), ('*', .operator .multiply),
   ('/', .operator .divide), ('^', .operator .exponent), ('(', .openParen), (')', .closeParen)]

/-- The characters of numbers. -/
def InNumber (c : Char) : Prop :=
  c.isDigit = true ∨ c = '.'

/-- The characters between lexemes. -/
def Between (c : Char) : Prop :=
  c = ' ' ∨ c = '\n'

/-- A run of digits and points is a number if it has a digit and not more than one point. -/
def IsNumber (run : List Char) : Prop :=
  (∃ c ∈ run, c.isDigit = true) ∧ run.count '.' ≤ 1

/-- `run` is a run of characters of a class in front of `rest`, and no longer one is. -/
structure Maximal (P : Char → Prop) (run rest : List Char) : Prop where
  ne_nil : run ≠ []
  all : ∀ c ∈ run, P c
  stops : ∀ c, rest.head? = some c → ¬ P c

/-- What starts with `c` is at most a name. -/
def AtMostName (c : Char) : Prop :=
  ¬ InNumber c ∧ c ∉ Token.operatorChars ∧ ¬ Between c

end Scan

open Scan in
/-- `Scans r p s ts e`: from position `p` on, the text `s` is cut into `ts` up to its end or up to
the error `e`. -/
inductive Scans (r : Registers φ) : Nat → List Char → List (Token φ) → Option String → Prop
  | done (p : Nat) : Scans r p [] [] none
  | number {p : Nat} {run rest : List Char} {ts : List (Token φ)} {e : Option String}
      (hrun : Maximal InNumber run rest) (hnum : IsNumber run)
      (h : Scans r (p + run.length) rest ts e) :
      Scans r p (run ++ rest) (.number (Number.ofLiteral run) :: ts) e
  | badNumber {p : Nat} {run rest : List Char} (hrun : Maximal InNumber run rest)
      (hnum : ¬ IsNumber run) :
      Scans r p (run ++ rest) []
        (some ("Invalid number '" ++ String.ofList run ++ "' at position: " ++ toString p))
  | operator {p : Nat} {c : Char} {t : Token φ} {s : List Char} {ts : List (Token φ)}
      {e : Option String} (hc : (c, t) ∈ operators) (h : Scans r (p + 1) s ts e) :
      Scans r p (c :: s) (t :: ts) e
  | space {p : Nat} {run rest : List Char} {ts : List (Token φ)} {e : Option String}
      (hrun : Maximal Between run rest) (h : Scans r (p + run.length) rest ts e) :
      Scans r p (run ++ rest) ts e
  | name {p : Nat} {name rest : List Char} {t : Token φ} {ts : List (Token φ)} {e : Option String}
      (hc : ∀ c, (name ++ rest).head? = some c → AtMostName c) (hl : r.Longest name rest)
      (hm : r.Means (String.ofList name) t) (h : Scans r (p + name.length) rest ts e) :
      Scans r p (name ++ rest) (t :: ts) e
  | badToken {p : Nat} {c : Char} {s : List Char} (hc : AtMostName c)
      (hno : ∀ name rest, String.ofList name ∈ r.names → c :: s = name ++ rest →
        ¬ Lexicon.EndsBefore rest) :
      Scans r p (c :: s) [] (some ("Invalid token '" ++ c.toString ++ "' at position: " ++ toString p))

namespace Scan

theorem isNumberChar_iff (c : Char) : isNumberChar c = true ↔ InNumber c := by
  simp [isNumberChar, InNumber]

theorem isSpace_iff (c : Char) : isSpace c = true ↔ Between c := by
  simp [isSpace, Between]

theorem mem_operators_iff {c : Char} {t : Token φ} :
    (c, t) ∈ operators ↔ Token.ofOperatorChar? c = some t := by
  constructor
  · intro h
    simp only [operators, List.mem_cons, List.not_mem_nil, or_false, Prod.mk.injEq] at h
    rcases h with h | h | h | h | h | h | h <;> obtain ⟨rfl, rfl⟩ := h <;> rfl
  · intro h
    unfold Token.ofOperatorChar? at h
    split at h <;> cases h <;> simp [operators]

theorem mem_operatorChars {c : Char} {t : Token φ} (h : (c, t) ∈ operators) :
    c ∈ Token.operatorChars :=
  (Token.mem_operatorChars_iff c).mpr (Option.isSome_iff_exists.mpr ⟨t, mem_operators_iff.mp h⟩)

theorem exists_ofOperatorChar? {c : Char} (h : c ∈ Token.operatorChars) :
    ∃ t : Token φ, Token.ofOperatorChar? c = some t :=
  Option.isSome_iff_exists.mp ((Token.mem_operatorChars_iff c).mp h)

theorem atMostName_iff {c : Char} : AtMostName c ↔ OpensName c := by
  constructor
  · rintro ⟨hn, ho, hs⟩
    exact ⟨Bool.eq_false_iff.mpr (mt (isNumberChar_iff c).mp hn), ho,
      Bool.eq_false_iff.mpr (mt (isSpace_iff c).mp hs)⟩
  · rintro ⟨hn, ho, hs⟩
    exact ⟨mt (isNumberChar_iff c).mpr (by simp [hn]), ho, mt (isSpace_iff c).mpr (by simp [hs])⟩

namespace Maximal
variable {P : Char → Prop} {p : Char → Bool} {run rest : List Char}

theorem toStops (hp : ∀ c, p c = true ↔ P c) (h : Maximal P run rest) : Stops p rest := by
  intro c hc
  exact Bool.eq_false_iff.mpr (mt (hp c).mp (h.stops c hc))

theorem all_eq_true (hp : ∀ c, p c = true ↔ P c) (h : Maximal P run rest) : ∀ c ∈ run, p c = true :=
  fun c hc => (hp c).mpr (h.all c hc)

theorem exists_of_head (hp : ∀ c, p c = true ↔ P c) {c : Char} (hc : P c) (s : List Char) :
    ∃ run rest, c :: s = run ++ rest ∧ Maximal P run rest := by
  refine ⟨c :: s.takeWhile p, s.dropWhile p, ?_, List.cons_ne_nil _ _, ?_, ?_⟩
  · rw [List.cons_append, List.takeWhile_append_dropWhile]
  · intro c' h'
    rcases List.mem_cons.mp h' with rfl | h'
    · exact hc
    · exact (hp c').mp (List.all_eq_true.mp (List.all_takeWhile ..) c' h')
  · intro c' h' hc'
    have := Stops.dropWhile s c' h'
    rw [(hp c').mpr hc'] at this
    cases this

end Maximal

theorem front_cases (c : Char) (s : List Char) :
    (∃ run rest, c :: s = run ++ rest ∧ Maximal InNumber run rest) ∨
    c ∈ Token.operatorChars ∨
    (∃ run rest, c :: s = run ++ rest ∧ Maximal Between run rest) ∨ AtMostName c := by
  by_cases hn : InNumber c
  · exact .inl (Maximal.exists_of_head isNumberChar_iff hn s)
  by_cases ho : c ∈ Token.operatorChars
  · exact .inr (.inl ho)
  by_cases hs : Between c
  · exact .inr (.inr (.inl (Maximal.exists_of_head isSpace_iff hs s)))
  · exact .inr (.inr (.inr ⟨hn, ho, hs⟩))

theorem isLiteral_iff {run : List Char} :
    Number.isLiteral run = true ↔ (∀ c ∈ run, InNumber c) ∧ IsNumber run := by
  simp [Number.isLiteral, InNumber, IsNumber, and_assoc]

theorem ofLiteral?_of_isNumber {run : List Char} (hall : ∀ c ∈ run, InNumber c) (h : IsNumber run) :
    Number.ofLiteral? run = some (Number.ofLiteral run) :=
  if_pos (isLiteral_iff.mpr ⟨hall, h⟩)

theorem ofLiteral?_of_not_isNumber {run : List Char} (h : ¬ IsNumber run) :
    Number.ofLiteral? run = none :=
  if_neg fun h' => h (isLiteral_iff.mp h').2

/-- Induction along a text, lexeme by lexeme. Where only a name can start, it may be any. -/
theorem lexeme_induction {P : Nat → List Char → Prop} (done : ∀ p, P p [])
    (number : ∀ p run rest, Maximal InNumber run rest → P (p + run.length) rest → P p (run ++ rest))
    (operator : ∀ p c s, c ∈ Token.operatorChars → P (p + 1) s → P p (c :: s))
    (space : ∀ p run rest, Maximal Between run rest → P (p + run.length) rest → P p (run ++ rest))
    (name : ∀ p c s, AtMostName c →
      (∀ name rest, name ≠ [] → c :: s = name ++ rest → P (p + name.length) rest) → P p (c :: s))
    (p : Nat) (s : List Char) : P p s := by
  induction hk : s.length using Nat.strongRecOn generalizing p s with
  | ind k ih =>
    subst hk
    have behind : ∀ run rest : List Char, run ≠ [] → s = run ++ rest → ∀ q, P q rest := by
      rintro run rest hrun rfl q
      refine ih _ ?_ q rest rfl
      have := List.length_pos_iff.mpr hrun
      rw [List.length_append]
      omega
    match s with
    | [] => exact done p
    | c :: s =>
      rcases front_cases c s with ⟨run, rest, hs, hrun⟩ | hc | ⟨run, rest, hs, hrun⟩ | hc
      · rw [hs]
        exact number p run rest hrun (behind run rest hrun.ne_nil hs _)
      · exact operator p c s hc (behind [c] s (List.cons_ne_nil _ _) rfl _)
      · rw [hs]
        exact space p run rest hrun (behind run rest hrun.ne_nil hs _)
      · exact name p c s hc fun n rest hn hs => behind n rest hn hs _

end Scan

section
variable {r : Registers φ} {L : Lexicon φ}
open Scan

theorem lexFrom_number {p : Nat} {run rest : List Char} (h : Maximal InNumber run rest) :
    L.lexFrom p (run ++ rest) =
      match Number.ofLiteral? run with
      | some x => (L.lexFrom (p + run.length) rest).cons (.number x)
      | none => ⟨[], some (.invalidNumber run p)⟩ :=
  Lexicon.lexFrom_run h.ne_nil (h.all_eq_true isNumberChar_iff) (h.toStops isNumberChar_iff)

theorem lexFrom_between {p : Nat} {run rest : List Char} (h : Maximal Between run rest) :
    L.lexFrom p (run ++ rest) = L.lexFrom (p + run.length) rest :=
  Lexicon.lexFrom_space h.ne_nil (h.all_eq_true isSpace_iff) (h.toStops isSpace_iff)

/-- The longest name is read where no other lexeme starts. -/
theorem lexFrom_longest (h : L.Lists r) (hne : "" ∉ r.names) {p : Nat} {name rest : List Char}
    {t : Token φ} (hc : ∀ c, (name ++ rest).head? = some c → AtMostName c) (hl : r.Longest name rest)
    (hm : r.Means (String.ofList name) t) :
    L.lexFrom p (name ++ rest) = (L.lexFrom (p + name.length) rest).cons t :=
  Lexicon.lexFrom_name (fun c h' => atMostName_iff.mp (hc c h')) (h.entryAt?_of_longest hne hl hm)

theorem atMostName_of_head? {c : Char} {s : List Char} (hc : AtMostName c) :
    ∀ c', (c :: s).head? = some c' → AtMostName c' := by
  rintro c' ⟨⟩
  exact hc

/-- Where no other lexeme starts, the longest name stands, or none does. -/
theorem longest_or_none (hne : "" ∉ r.names) (s : List Char) :
    (∃ name rest t, s = name ++ rest ∧ name ≠ [] ∧ r.Longest name rest ∧
      r.Means (String.ofList name) t) ∨
    ∀ name rest, String.ofList name ∈ r.names → s = name ++ rest → ¬ Lexicon.EndsBefore rest := by
  have hL := Lexicon.lists_ofRegisters r
  cases he : (Lexicon.ofRegisters r).entryAt? s with
  | none => exact .inr ((hL.entryAt?_eq_none_iff hne).mp he)
  | some e =>
    obtain ⟨rest, hs, hl, hm⟩ := hL.longest_of_entryAt? hne he
    exact .inl ⟨e.1, rest, e.2, hs, List.length_pos_iff.mp (Lexicon.length_pos_of_entryAt? he), hl, hm⟩

theorem exists_scans (hne : "" ∉ r.names) (p : Nat) (s : List Char) : ∃ ts e, Scans r p s ts e := by
  induction p, s using lexeme_induction with
  | done p => exact ⟨_, _, .done p⟩
  | number p run rest hrun ih =>
    obtain ⟨ts, e, h⟩ := ih
    by_cases hnum : IsNumber run
    · exact ⟨_, _, .number hrun hnum h⟩
    · exact ⟨_, _, .badNumber hrun hnum⟩
  | operator p c s hc ih =>
    obtain ⟨t, ht⟩ := exists_ofOperatorChar? hc
    obtain ⟨ts, e, h⟩ := ih
    exact ⟨_, _, .operator (mem_operators_iff.mpr ht) h⟩
  | space p run rest hrun ih =>
    obtain ⟨ts, e, h⟩ := ih
    exact ⟨_, _, .space hrun h⟩
  | name p c s hc behind =>
    rcases longest_or_none hne (c :: s) with ⟨name, rest, t, hs, hname, hl, hm⟩ | hno
    · obtain ⟨ts, e, h⟩ := behind name rest hname hs
      have hc' := atMostName_of_head? (s := s) hc
      rw [hs] at hc' ⊢
      exact ⟨_, _, .name hc' hl hm h⟩
    · exact ⟨_, _, .badToken hc hno⟩

/-- What lexing cuts a text into is what a scan of it says. -/
theorem lexFrom_of_scans (h : L.Lists r) (hne : "" ∉ r.names) {p : Nat} {s : List Char}
    {ts : List (Token φ)} {e : Option String} (hs : Scans r p s ts e) :
    (L.lexFrom p s).tokens = ts ∧ (L.lexFrom p s).error.map LexError.message = e := by
  induction hs with
  | done p => rw [Lexicon.lexFrom_nil]; exact ⟨rfl, rfl⟩
  | number hrun hnum _ ih =>
    rw [lexFrom_number hrun, ofLiteral?_of_isNumber hrun.all hnum]
    exact ⟨congrArg _ ih.1, ih.2⟩
  | badNumber hrun hnum =>
    rw [lexFrom_number hrun, ofLiteral?_of_not_isNumber hnum]
    exact ⟨rfl, congrArg some (LexError.message_invalidNumber _ _)⟩
  | operator hc _ ih =>
    rw [Lexicon.lexFrom_operator (mem_operators_iff.mp hc)]
    exact ⟨congrArg _ ih.1, ih.2⟩
  | space hrun _ ih => rwa [lexFrom_between hrun]
  | name hc hl hm _ ih =>
    rw [lexFrom_longest h hne hc hl hm]
    exact ⟨congrArg _ ih.1, ih.2⟩
  | badToken hc hno =>
    rw [Lexicon.lexFrom_none (atMostName_iff.mp hc) ((h.entryAt?_eq_none_iff hne).mpr hno)]
    exact ⟨rfl, rfl⟩

theorem scans_iff (h : L.Lists r) (hne : "" ∉ r.names) {p : Nat} {s : List Char}
    {ts : List (Token φ)} {e : Option String} :
    Scans r p s ts e ↔
      (L.lexFrom p s).tokens = ts ∧ (L.lexFrom p s).error.map LexError.message = e := by
  constructor
  · exact lexFrom_of_scans h hne
  · rintro ⟨rfl, rfl⟩
    obtain ⟨ts, e, hs⟩ := exists_scans hne p s
    obtain ⟨rfl, rfl⟩ := lexFrom_of_scans h hne hs
    exact hs

/-- The order of names of one length does not matter. -/
theorem lexFrom_eq_of_lists {L' : Lexicon φ} (h : L.Lists r) (h' : L'.Lists r) (hne : "" ∉ r.names)
    (p : Nat) (s : List Char) : L.lexFrom p s = L'.lexFrom p s := by
  induction p, s using lexeme_induction with
  | done p => rw [Lexicon.lexFrom_nil, Lexicon.lexFrom_nil]
  | number p run rest hrun ih => rw [lexFrom_number hrun, lexFrom_number hrun, ih]
  | operator p c s hc ih =>
    obtain ⟨t, ht⟩ := exists_ofOperatorChar? hc
    rw [Lexicon.lexFrom_operator ht, Lexicon.lexFrom_operator ht, ih]
  | space p run rest hrun ih => rw [lexFrom_between hrun, lexFrom_between hrun, ih]
  | name p c s hc behind =>
    rcases longest_or_none hne (c :: s) with ⟨name, rest, t, hs, hname, hl, hm⟩ | hno
    · have hc' := atMostName_of_head? (s := s) hc
      rw [hs] at hc' ⊢
      rw [lexFrom_longest h hne hc' hl hm, lexFrom_longest h' hne hc' hl hm, behind name rest hname hs]
    · rw [Lexicon.lexFrom_none (atMostName_iff.mp hc) ((h.entryAt?_eq_none_iff hne).mpr hno),
        Lexicon.lexFrom_none (atMostName_iff.mp hc) ((h'.entryAt?_eq_none_iff hne).mpr hno)]

end

theorem Lexicon.Lists.of_perm {r : Registers φ} {L L' : Lexicon φ} (h : L.Lists r)
    (hp : L'.entries.Perm L.entries) (hl : LongestFirst L'.names) : L'.Lists r :=
  ⟨fun n t => hp.mem_iff.trans (h.mem_iff n t), hl⟩

/-- Lexing yields the tokens of the scan, and then its error if it ends in one. Any other order of
the names that has longer ones first gives the same tokens and the same error. -/
theorem lex_scans (r : Registers φ) (hne : "" ∉ r.names) (text : String) :
    (∀ ts e, Scans r 0 text.toList ts e ↔ ((Lexicon.ofRegisters r).lex text).tokens = ts ∧
      ((Lexicon.ofRegisters r).lex text).error.map LexError.message = e) ∧
    ∀ L : Lexicon φ, L.entries.Perm (Lexicon.ofRegisters r).entries → LongestFirst L.names →
      L.lex text = (Lexicon.ofRegisters r).lex text := by
  have h := Lexicon.lists_ofRegisters r
  exact ⟨fun ts e => scans_iff h hne,
    fun L hp hl => lexFrom_eq_of_lists (h.of_perm hp hl) h hne 0 text.toList⟩

/-- A longer name wins over a shorter one that it starts with, names of one length in either order,
and no name is read where letters or numbers follow. -/
theorem lex_scans_log2 :
    let r : Registers Operation := ⟨[⟨"log", .log⟩, ⟨"exp", .exp⟩, ⟨"log2", .log2⟩], []⟩
    let L : Lexicon Operation :=
      ⟨[("log2".toList, .function ⟨"log2", .log2⟩), ("log".toList, .function ⟨"log", .log⟩),
        ("exp".toList, .function ⟨"exp", .exp⟩)]⟩
    "" ∉ r.names ∧
    Scans r 0 "log2\n(exp*log3".toList
      [.function ⟨"log2", .log2⟩, .openParen, .function ⟨"exp", .exp⟩, .operator .multiply]
      (some "Invalid token 'l' at position: 10") ∧
    L.lex "exp(log" = (Lexicon.ofRegisters r).lex "exp(log" := by
  intro r L
  have hne : "" ∉ r.names := by decide
  refine ⟨hne, ((lex_scans r hne _).1 _ _).mpr (by decide +kernel), (lex_scans r hne _).2 L ?_ ?_⟩
  · decide +kernel
  · unfold LongestFirst
    decide

end Reckoner
