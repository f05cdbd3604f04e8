import Mathlib.Data.List.Sort
import Reckoner.LexicalGrammar
import Reckoner.Proofs.Names

/-!
# The names in a lexical grammar

The lexical grammar keeps the names of a lexicon: they can be read back from its text, in their order
(`namesOfGrammar_grammar`). An unescaped bar ends a name and an unescaped parenthesis the last one,
and escaping leaves neither inside a name. The names of registers are in a strict order, so they are
listed once each, and registers with the same names have the same grammar.
-/

namespace Reckoner

variable {φ : Type}

/-! ### The order of names -/

section
variable {a b c : List Char} {name : List Char} {ns : List (List Char)}

theorem precedes_iff : precedes a b = true ↔ b.length < a.length ∨ a.length = b.length ∧ a < b := by
  simp [precedes]

theorem precedes_irrefl (a : List Char) : ¬ precedes a a = true := by
  simp [precedes_iff]

theorem precedes_asymm (h : precedes a b = true) : ¬ precedes b a = true := by
  rw [precedes_iff] at *
  rcases h with h | ⟨h, hlt⟩
  · omega
  · rintro (h' | ⟨-, h'⟩)
    · omega
    · exact List.lt_asymm hlt h'

theorem precedes_trans (h : precedes a b = true) (h' : precedes b c = true) :
    precedes a c = true := by
  rw [precedes_iff] at *
  rcases h with h | ⟨h, hlt⟩ <;> rcases h' with h' | ⟨h', hlt'⟩
  · omega
  · omega
  · omega
  · exact .inr ⟨h.trans h', List.lt_trans hlt hlt'⟩

theorem precedes_of_not (hne : a ≠ b) (h : ¬ precedes a b = true) : precedes b a = true := by
  rw [precedes_iff] at *
  rcases Nat.lt_trichotomy a.length b.length with hl | hl | hl
  · exact .inl hl
  · have hnot : ¬ a < b := fun hlt => h (.inr ⟨hl, hlt⟩)
    exact .inr ⟨hl.symm, List.not_le.mp fun hle => hne (List.le_antisymm hle hnot)⟩
  · exact absurd (.inl hl) h

instance : Std.Irrefl fun a b => precedes a b = true :=
  ⟨precedes_irrefl⟩

instance : Std.Antisymm fun a b => precedes a b = true :=
  ⟨fun _ _ h h' => absurd h' (precedes_asymm h)⟩

theorem pairwise_insertName (name : List Char) (h : ns.Pairwise fun a b => precedes a b = true) :
    (insertName name ns).Pairwise fun a b => precedes a b = true := by
  induction ns with
  | nil => exact List.pairwise_singleton ..
  | cons n ns ih =>
    obtain ⟨hn, hns⟩ := List.pairwise_cons.mp h
    unfold insertName
    split
    · exact h
    · next hne =>
      split
      · next hp =>
        refine List.pairwise_cons.mpr ⟨fun m hm => ?_, h⟩
        rcases List.mem_cons.mp hm with rfl | hm
        · exact hp
        · exact precedes_trans hp (hn m hm)
      · next hp =>
        refine List.pairwise_cons.mpr ⟨fun m hm => ?_, ih hns⟩
        rcases mem_insertName.mp hm with rfl | hm
        · exact precedes_of_not hne hp
        · exact hn m hm

end

namespace Registers
variable {r r' : Registers φ}

theorem pairwise_orderedNames (r : Registers φ) :
    r.orderedNames.Pairwise fun a b => precedes a b = true := by
  unfold orderedNames
  induction r.names.map String.toList with
  | nil => exact List.Pairwise.nil
  | cons m ms ih => exact pairwise_insertName m ih

theorem nodup_orderedNames (r : Registers φ) : r.orderedNames.Nodup :=
  r.pairwise_orderedNames.nodup

theorem mem_orderedNames_iff {name : List Char} :
    name ∈ r.orderedNames ↔ String.ofList name ∈ r.names := by
  rw [mem_orderedNames, List.mem_map]
  constructor
  · rintro ⟨n, hn, rfl⟩
    rwa [String.ofList_toList]
  · exact fun h => ⟨_, h, String.toList_ofList⟩

/-- Only the set of names matters for their order. -/
theorem orderedNames_eq_iff :
    r.orderedNames = r'.orderedNames ↔ ∀ name, name ∈ r.names ↔ name ∈ r'.names := by
  constructor
  · intro h name
    have hmem : name.toList ∈ r.orderedNames ↔ name.toList ∈ r'.orderedNames := by rw [h]
    simpa [mem_orderedNames_iff] using hmem
  · intro h
    refine r.pairwise_orderedNames.eq_of_mem_iff r'.pairwise_orderedNames fun name => ?_
    rw [mem_orderedNames_iff, mem_orderedNames_iff, h]

end Registers

/-! ### Names in a pattern -/

/-- Puts a character in front of the first name. -/
def consFirst (c : Char) : List (List Char) → List (List Char)
  | [] => [[c]]
  | n :: ns => (c :: n) :: ns

/-- The names of alternatives: a bar stands between two of them and a parenthesis behind the last, and
a character behind a backslash is part of a name. -/
def readAlternatives : List Char → List (List Char)
  | [] => [[]]
  | ')' :: _ => [[]]
  | '|' :: s => [] :: readAlternatives s
  | '\\' :: c :: s => consFirst c (readAlternatives s)
  | c :: s => consFirst c (readAlternatives s)

theorem readAlternatives_cons {c : Char} (hbar : c ≠ '|') (hclose : c ≠ ')') (hback : c ≠ '\\')
    (s : List Char) : readAlternatives (c :: s) = consFirst c (readAlternatives s) := by
  rw [readAlternatives]
  · exact hclose
  · exact hbar
  · exact fun _ _ h _ => hback h

theorem readAlternatives_escapeChar (c : Char) (s : List Char) :
    readAlternatives (escapeChar c ++ s) = consFirst c (readAlternatives s) := by
  unfold escapeChar
  split
  · rfl
  · next h =>
    refine readAlternatives_cons ?_ ?_ ?_ s <;> rintro rfl <;> exact h (by decide)

theorem readAlternatives_escapePattern (n s : List Char) :
    readAlternatives (escapePattern n ++ s) = n.foldr consFirst (readAlternatives s) := by
  induction n with
  | nil => rfl
  | cons c n ih =>
    rw [escapePattern, List.flatMap_cons, List.append_assoc, readAlternatives_escapeChar]
    exact congrArg (consFirst c) ih

theorem foldr_consFirst (n m : List Char) (ns : List (List Char)) :
    n.foldr consFirst (m :: ns) = (n ++ m) :: ns := by
  induction n with
  | nil => rfl
  | cons c n ih => rw [List.foldr_cons, ih]; rfl

/-- Escaped and joined, names are read back one by one. -/
theorem readAlternatives_intercalate {names : List (List Char)} (hne : names ≠ [])
    (s : List Char) :
    readAlternatives (['|'].intercalate (names.map escapePattern) ++ ')' :: s) = names := by
  induction names with
  | nil => exact absurd rfl hne
  | cons n names ih =>
    cases names with
    | nil =>
      rw [List.map_singleton, List.intercalate_singleton, readAlternatives_escapePattern]
      show n.foldr consFirst [[]] = [n]
      rw [foldr_consFirst, List.append_nil]
    | cons m names =>
      rw [List.map_cons, List.map_cons, List.intercalate_cons_cons, List.append_assoc,
        List.append_assoc, readAlternatives_escapePattern]
      show n.foldr consFirst ([] :: readAlternatives _) = _
      rw [foldr_consFirst, List.append_nil]
      exact congrArg (n :: ·) (ih (List.cons_ne_nil _ _))

/-! ### Names in the grammar -/

/-- The lexical grammar up to the names. -/
def grammarFront : List Char :=
  "(?<number>[0-9.]+)|(?<operator>[".toList ++ escapePattern Token.operatorChars ++
    "])|(?<space>[\\x20\\n]+)|(?<name>".toList

/-- The names in the text of a lexical grammar. -/
def namesOfGrammar (grammar : String) : List (List Char) :=
  match grammar.toList.drop grammarFront.length with
  | '(' :: '?' :: ':' :: alternatives => readAlternatives alternatives
  | _ => []

namespace Lexicon
variable {L L' : Lexicon φ} {r r' : Registers φ}

theorem toList_grammar (L : Lexicon φ) :
    L.grammar.toList = grammarFront ++ (namePattern L.names ++ [')']) := by
  unfold grammar grammarFront
  simp only [String.toList_append, String.toList_ofList, List.append_assoc]
  rfl

theorem drop_toList_grammar (L : Lexicon φ) :
    L.grammar.toList.drop grammarFront.length = namePattern L.names ++ [')'] := by
  rw [toList_grammar, List.drop_left]

theorem namePattern_of_ne_nil {names : List (List Char)} (hne : names ≠ []) :
    ∃ rest, namePattern names ++ [')'] = '(' :: '?' :: ':' ::
      (['|'].intercalate (names.map escapePattern) ++ ')' :: rest) := by
  cases names with
  | nil => exact absurd rfl hne
  | cons n names =>
    refine ⟨"(?![\\p\x7bAlphabetic\x7d\\p\x7bN\x7d])".toList ++ [')'], ?_⟩
    simp [namePattern]

/-- The grammar keeps the names of the lexicon and their order. -/
theorem namesOfGrammar_grammar (L : Lexicon φ) : namesOfGrammar L.grammar = L.names := by
  unfold namesOfGrammar
  rw [drop_toList_grammar]
  by_cases hne : L.names = []
  · rw [hne]
    rfl
  · obtain ⟨rest, h⟩ := namePattern_of_ne_nil hne
    rw [h]
    exact readAlternatives_intercalate hne rest

/-- The lexicon has the entries that the registers give, longer names first and those of one length in
any order. -/
structure Arranges (L : Lexicon φ) (r : Registers φ) : Prop where
  perm : L.entries.Perm (ofRegisters r).entries
  longestFirst : LongestFirst L.names

theorem names_ofRegisters (r : Registers φ) : (ofRegisters r).names = r.orderedNames := by
  have hentry : ∀ n ∈ r.orderedNames,
      ((r.token? (String.ofList n)).map fun t => (n, t)).map Prod.fst = some n := by
    intro n hn
    obtain ⟨t, ht⟩ := Registers.exists_means (Registers.mem_orderedNames_iff.mp hn)
    rw [Registers.token?_eq_some_iff.mpr ht]
    rfl
  rw [names, ofRegisters, List.map_filterMap, List.filterMap_congr hentry, List.filterMap_some]

theorem arranges_ofRegisters (r : Registers φ) : (ofRegisters r).Arranges r :=
  ⟨.refl _, (lists_ofRegisters r).longestFirst⟩

namespace Arranges

theorem perm_names (h : L.Arranges r) : L.names.Perm r.orderedNames := by
  rw [← names_ofRegisters]
  exact h.perm.map _

theorem nodup (h : L.Arranges r) : L.names.Nodup :=
  h.perm_names.nodup_iff.mpr r.nodup_orderedNames

theorem mem_iff (h : L.Arranges r) (name : List Char) :
    name ∈ L.names ↔ String.ofList name ∈ r.names :=
  h.perm_names.mem_iff.trans Registers.mem_orderedNames_iff

theorem perm_iff (h : L.Arranges r) (h' : L'.Arranges r') :
    L.names.Perm L'.names ↔ ∀ name, name ∈ r.names ↔ name ∈ r'.names := by
  rw [List.perm_ext_iff_of_nodup h.nodup h'.nodup]
  simp only [h.mem_iff, h'.mem_iff]
  exact ⟨fun hsame name => by simpa using hsame name.toList, fun hsame name => hsame _⟩

end Arranges

/-- The grammars are the same up to the order of names of one length. -/
def SameUpToOrder (φ : Type) (g g' : String) : Prop :=
  ∃ L L' : Lexicon φ, L.grammar = g ∧ L'.grammar = g' ∧ LongestFirst L.names ∧
    LongestFirst L'.names ∧ L.names.Perm L'.names

theorem sameUpToOrder_iff (h : L.Arranges r) (h' : L'.Arranges r') :
    SameUpToOrder φ L.grammar L'.grammar ↔ ∀ name, name ∈ r.names ↔ name ∈ r'.names := by
  rw [← h.perm_iff h']
  constructor
  · rintro ⟨M, M', hM, hM', -, -, hperm⟩
    rwa [← namesOfGrammar_grammar M, ← namesOfGrammar_grammar M', hM, hM', namesOfGrammar_grammar,
      namesOfGrammar_grammar] at hperm
  · exact fun hperm => ⟨L, L', rfl, rfl, h.longestFirst, h'.longestFirst, hperm⟩

theorem grammar_congr (h : L.names = L'.names) : L.grammar = L'.grammar := by
  unfold grammar
  rw [h]

theorem grammar_ofRegisters_eq_iff : (ofRegisters r).grammar = (ofRegisters r').grammar ↔
    ∀ name, name ∈ r.names ↔ name ∈ r'.names := by
  rw [← Registers.orderedNames_eq_iff, ← names_ofRegisters, ← names_ofRegisters]
  refine ⟨fun h => ?_, grammar_congr⟩
  rw [← namesOfGrammar_grammar, h, namesOfGrammar_grammar]

end Lexicon

open Lexicon

/-- The names of registers can be read back from their lexical grammar, in whatever order names of one
length stand there: each once, the longer ones first. So up to that order, and in the order that the
lexicon keeps to exactly, grammars are the same for the same sets of names only, and no names at all
are not the same as the empty one. -/
theorem grammar_keeps_names (r : Registers φ) :
    (Lexicon.ofRegisters r).Arranges r ∧
    (∀ L : Lexicon φ, L.Arranges r →
      (∀ name, name ∈ namesOfGrammar L.grammar ↔ String.ofList name ∈ r.names) ∧
      (namesOfGrammar L.grammar).Nodup ∧ LongestFirst (namesOfGrammar L.grammar)) ∧
    (∀ (r' : Registers φ) (L L' : Lexicon φ), L.Arranges r → L'.Arranges r' →
      (SameUpToOrder φ L.grammar L'.grammar ↔ ∀ name, name ∈ r.names ↔ name ∈ r'.names)) ∧
    (∀ r' : Registers φ, (Lexicon.ofRegisters r).grammar = (Lexicon.ofRegisters r').grammar ↔
      ∀ name, name ∈ r.names ↔ name ∈ r'.names) ∧
    (r.names = [] → ∀ r' : Registers φ, (∀ name, name ∈ r'.names ↔ name = "") →
      ∀ L L' : Lexicon φ, L.Arranges r → L'.Arranges r' →
        ¬ SameUpToOrder φ L.grammar L'.grammar) := by
  refine ⟨arranges_ofRegisters r, ?_, fun r' L L' => sameUpToOrder_iff,
    fun r' => grammar_ofRegisters_eq_iff, ?_⟩
  · intro L hL
    rw [namesOfGrammar_grammar]
    exact ⟨hL.mem_iff, hL.nodup, hL.longestFirst⟩
  · intro hr r' hone L L' hL hL' hsame
    have hempty := ((sameUpToOrder_iff hL hL').mp hsame "").mpr ((hone "").mpr rfl)
    rw [hr] at hempty
    cases hempty

/-- Names with a bar, a backslash and a parenthesis, an empty one and one that is declared twice, with
two of one length in another order; then no names and the empty one. -/
theorem grammar_keeps_names_marks :
    let r : Registers Operation :=
      ⟨[⟨"a|b", .sin⟩, ⟨"\\|", .cos⟩, ⟨"", .tan⟩], [⟨"a|b", 1⟩, ⟨")\n", 2⟩]⟩
    let L : Lexicon Operation := ⟨[("a|b".toList, .function ⟨"a|b", .sin⟩),
      ("\\|".toList, .function ⟨"\\|", .cos⟩), (")\n".toList, .number 2),
      ([], .function ⟨"", .tan⟩)]⟩
    L.Arranges r ∧
    L.grammar ≠ (Lexicon.ofRegisters r).grammar ∧
    SameUpToOrder Operation L.grammar (Lexicon.ofRegisters r).grammar ∧
    (namesOfGrammar L.grammar).Nodup ∧
    (⟨[], []⟩ : Registers Operation).names = [] ∧
    (∀ name, name ∈ (⟨[⟨"", .sin⟩], []⟩ : Registers Operation).names ↔ name = "") ∧
    ¬ SameUpToOrder Operation (Lexicon.ofRegisters (⟨[], []⟩ : Registers Operation)).grammar
      (Lexicon.ofRegisters (⟨[⟨"", .sin⟩], []⟩ : Registers Operation)).grammar := by
  intro r L
  have hr : (Lexicon.ofRegisters r).Arranges r := (grammar_keeps_names r).1
  have hL : L.Arranges r := by
    refine ⟨?_, ?_⟩
    · decide +kernel
    · unfold LongestFirst
      decide
  have hempty : ∀ name, name ∈ (⟨[⟨"", .sin⟩], []⟩ : Registers Operation).names ↔ name = "" := by
    simp [Registers.names]
  exact ⟨hL, by decide +kernel, ((grammar_keeps_names r).2.2.1 r L _ hL hr).mpr fun _ => Iff.rfl,
    ((grammar_keeps_names r).2.1 L hL).2.1, rfl, hempty,
    (grammar_keeps_names (⟨[], []⟩ : Registers Operation)).2.2.2.2 rfl _ hempty _ _
      (grammar_keeps_names _).1 (grammar_keeps_names _).1⟩

end Reckoner
