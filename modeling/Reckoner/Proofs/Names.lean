import Reckoner.Proofs.Lexemes

/-!
# The names of registers

What a name stands for (`Registers.Means`): the last function of that name, else the last constant.
A lexicon `Lists` registers if its entries are their names with what they stand for, longer names
before shorter ones, those of one length in any order. Of all names in front of a text the first
entry is then the longest (`Lists.longest_of_entryAt?`), since two names of one length in front of
the same text are equal. So the order within a length does not matter.
-/

namespace Reckoner

variable {φ : Type}

theorem find?_reverse_eq_some_iff {α : Type} {p : α → Bool} {xs : List α} {a : α} :
    xs.reverse.find? p = some a ↔
      ∃ before after, xs = before ++ a :: after ∧ p a = true ∧ ∀ b ∈ after, p b = false := by
  rw [List.find?_eq_some_iff_append]
  constructor
  · rintro ⟨ha, as, bs, h, has⟩
    refine ⟨bs.reverse, as.reverse, ?_, ha, fun b hb => by simpa using has b (List.mem_reverse.mp hb)⟩
    rw [← List.reverse_reverse xs, h]
    simp
  · rintro ⟨before, after, rfl, ha, h⟩
    exact ⟨ha, after.reverse, before.reverse, by simp, fun b hb => by
      rw [h b (List.mem_reverse.mp hb)]; rfl⟩

namespace Registers
variable {r : Registers φ} {name : String} {t : Token φ}

/-- What a name stands for: the last function of that name, or if there is none, the value of the
last constant of that name. -/
inductive Means (r : Registers φ) (name : String) : Token φ → Prop
  | function {before after : List (UnaryFunction φ)} {f : UnaryFunction φ}
      (hf : r.functions = before ++ f :: after) (hn : f.name = name)
      (hlast : ∀ g ∈ after, g.name ≠ name) : Means r name (.function f)
  | constant {before after : List Constant} {c : Constant} (hno : ∀ f ∈ r.functions, f.name ≠ name)
      (hc : r.constants = before ++ c :: after) (hn : c.name = name)
      (hlast : ∀ d ∈ after, d.name ≠ name) : Means r name (.number c.value)

theorem function?_eq_some_iff {f : UnaryFunction φ} :
    r.function? name = some f ↔ ∃ before after, r.functions = before ++ f :: after ∧ f.name = name ∧
      ∀ g ∈ after, g.name ≠ name := by
  simp only [function?, find?_reverse_eq_some_iff, beq_iff_eq, beq_eq_false_iff_ne]

theorem constant?_eq_some_iff {c : Constant} :
    r.constant? name = some c ↔ ∃ before after, r.constants = before ++ c :: after ∧ c.name = name ∧
      ∀ d ∈ after, d.name ≠ name := by
  simp only [constant?, find?_reverse_eq_some_iff, beq_iff_eq, beq_eq_false_iff_ne]

theorem function?_eq_none_iff : r.function? name = none ↔ ∀ f ∈ r.functions, f.name ≠ name := by
  simp [function?]

theorem token?_eq_some_iff : r.token? name = some t ↔ r.Means name t := by
  unfold token?
  constructor
  · intro h
    split at h
    · next f hf =>
      cases h
      obtain ⟨before, after, hs, hn, hlast⟩ := function?_eq_some_iff.mp hf
      exact .function hs hn hlast
    · next hf =>
      obtain ⟨c, hc, rfl⟩ := Option.map_eq_some_iff.mp h
      obtain ⟨before, after, hs, hn, hlast⟩ := constant?_eq_some_iff.mp hc
      exact .constant (function?_eq_none_iff.mp hf) hs hn hlast
  · intro h
    cases h with
    | function hs hn hlast => rw [function?_eq_some_iff.mpr ⟨_, _, hs, hn, hlast⟩]
    | constant hno hs hn hlast =>
      rw [function?_eq_none_iff.mpr hno, constant?_eq_some_iff.mpr ⟨_, _, hs, hn, hlast⟩]
      rfl

theorem Means.unique {t' : Token φ} (h : r.Means name t) (h' : r.Means name t') : t = t' := by
  rw [← token?_eq_some_iff] at h h'
  exact Option.some.inj (h.symm.trans h')

theorem Means.mem_names (h : r.Means name t) : name ∈ r.names := by
  cases h with
  | function hs hn _ => exact List.mem_append_left _ (List.mem_map.mpr ⟨_, by rw [hs]; simp, hn⟩)
  | constant _ hs hn _ => exact List.mem_append_right _ (List.mem_map.mpr ⟨_, by rw [hs]; simp, hn⟩)

theorem exists_means (h : name ∈ r.names) : ∃ t, r.Means name t := by
  simp only [← token?_eq_some_iff, token?]
  split
  · exact ⟨_, rfl⟩
  · next hf =>
    rcases List.mem_append.mp h with h | h
    · obtain ⟨f, hmem, hn⟩ := List.mem_map.mp h
      exact absurd hn (function?_eq_none_iff.mp hf f hmem)
    · obtain ⟨c, hmem, hn⟩ := List.mem_map.mp h
      have hs : (r.constant? name).isSome := by
        simp only [constant?, List.find?_isSome, List.mem_reverse, beq_iff_eq]
        exact ⟨c, hmem, hn⟩
      obtain ⟨c', hc⟩ := Option.isSome_iff_exists.mp hs
      exact ⟨_, by rw [hc]; rfl⟩

end Registers

/-! ### Longest first -/

/-- Longer names stand first. -/
def LongestFirst (ns : List (List Char)) : Prop :=
  ns.Pairwise fun m n => n.length ≤ m.length

theorem longestFirst_insertName (name : List Char) {ns : List (List Char)} (h : LongestFirst ns) :
    LongestFirst (insertName name ns) := by
  induction ns with
  | nil => exact List.pairwise_singleton ..
  | cons n ns ih =>
    obtain ⟨hn, hns⟩ := List.pairwise_cons.mp h
    unfold insertName
    split
    · exact h
    · split
      · next hp =>
        have hl : n.length ≤ name.length := by
          simp only [precedes, Bool.or_eq_true, decide_eq_true_eq, Bool.and_eq_true, beq_iff_eq] at hp
          omega
        refine List.pairwise_cons.mpr ⟨fun m hm => ?_, h⟩
        rcases List.mem_cons.mp hm with rfl | hm
        · exact hl
        · exact Nat.le_trans (hn m hm) hl
      · next hp =>
        have hl : name.length ≤ n.length := by
          simp only [precedes, Bool.or_eq_true, decide_eq_true_eq, not_or] at hp
          omega
        refine List.pairwise_cons.mpr ⟨fun m hm => ?_, ih hns⟩
        rcases mem_insertName.mp hm with rfl | hm
        · exact hl
        · exact hn m hm

theorem Registers.longestFirst_orderedNames (r : Registers φ) : LongestFirst r.orderedNames := by
  unfold orderedNames
  induction r.names.map String.toList with
  | nil => exact List.Pairwise.nil
  | cons m ms ih => exact longestFirst_insertName m ih

namespace Lexicon

/-- The lexicon holds the names of the registers with what they stand for, longer names first. -/
structure Lists (L : Lexicon φ) (r : Registers φ) : Prop where
  mem_iff : ∀ n t, (n, t) ∈ L.entries ↔ r.Means (String.ofList n) t
  longestFirst : LongestFirst L.names

theorem lists_ofRegisters (r : Registers φ) : (ofRegisters r).Lists r where
  mem_iff n t := by
    simp only [ofRegisters, List.mem_filterMap, Option.map_eq_some_iff, Prod.mk.injEq]
    constructor
    · rintro ⟨n', -, t', ht, rfl, rfl⟩
      exact Registers.token?_eq_some_iff.mp ht
    · intro h
      refine ⟨n, ?_, t, Registers.token?_eq_some_iff.mpr h, rfl, rfl⟩
      exact Registers.mem_orderedNames.mpr (List.mem_map.mpr ⟨_, h.mem_names, String.toList_ofList⟩)
  longestFirst := by
    unfold LongestFirst names ofRegisters
    rw [List.pairwise_map]
    refine List.Pairwise.filterMap _ ?_ r.longestFirst_orderedNames
    intro m n hmn a ha b hb
    obtain ⟨_, -, rfl⟩ := Option.map_eq_some_iff.mp ha
    obtain ⟨_, -, rfl⟩ := Option.map_eq_some_iff.mp hb
    exact hmn

/-- A name may end in front of `rest`. -/
def EndsBefore (rest : List Char) : Prop :=
  Stops Text.isNameChar rest

theorem nameEnds_iff {rest : List Char} : nameEnds rest = true ↔ EndsBefore rest := by
  cases rest with
  | nil => exact ⟨fun _ => .nil, fun _ => rfl⟩
  | cons c rest =>
    simp only [nameEnds, List.head?_cons, Option.all_some, Bool.not_eq_true']
    exact ⟨.cons, fun h => h c rfl⟩

theorem readsAt_iff {name s : List Char} :
    readsAt name s = true ↔ name ≠ [] ∧ ∃ rest, s = name ++ rest ∧ EndsBefore rest := by
  simp only [readsAt, Bool.and_eq_true, Bool.not_eq_true', List.isEmpty_eq_false_iff,
    List.isPrefixOf_iff_prefix, nameEnds_iff]
  constructor
  · rintro ⟨⟨hne, rest, rfl⟩, h⟩
    rw [List.drop_left] at h
    exact ⟨hne, rest, rfl, h⟩
  · rintro ⟨hne, rest, rfl, h⟩
    rw [List.drop_left]
    exact ⟨⟨hne, List.prefix_append ..⟩, h⟩

end Lexicon

/-- `name` is the longest of the names that stand in front of `rest`, read from where `name`
starts. -/
structure Registers.Longest (r : Registers φ) (name rest : List Char) : Prop where
  mem : String.ofList name ∈ r.names
  ends : Lexicon.EndsBefore rest
  longest : ∀ other rest', String.ofList other ∈ r.names → name ++ rest = other ++ rest' →
    Lexicon.EndsBefore rest' → other.length ≤ name.length

/-- Of the names in front of a text only one is the longest. -/
theorem Registers.Longest.unique {r : Registers φ} {m n rest rest' : List Char}
    (hm : r.Longest m rest) (hn : r.Longest n rest') (h : m ++ rest = n ++ rest') :
    m = n ∧ rest = rest' := by
  have hl := hm.longest n rest' hn.mem h hn.ends
  have hl' := hn.longest m rest hm.mem h.symm hm.ends
  exact List.append_inj h (Nat.le_antisymm hl' hl)

namespace Lexicon.Lists
variable {L : Lexicon φ} {r : Registers φ} {name rest s : List Char} {t : Token φ}

theorem readsAt_of_mem (hne : "" ∉ r.names) (hm : String.ofList name ∈ r.names)
    (hend : EndsBefore rest) : readsAt name (name ++ rest) = true := by
  refine readsAt_iff.mpr ⟨?_, rest, rfl, hend⟩
  rintro rfl
  exact hne hm

/-- The first entry that fits is the longest name, with what it stands for. -/
theorem longest_of_entryAt? (h : L.Lists r) (hne : "" ∉ r.names) {e : List Char × Token φ}
    (he : L.entryAt? s = some e) :
    ∃ rest, s = e.1 ++ rest ∧ r.Longest e.1 rest ∧ r.Means (String.ofList e.1) e.2 := by
  obtain ⟨hr, as, bs, hs, has⟩ := List.find?_eq_some_iff_append.mp he
  have hm : r.Means (String.ofList e.1) e.2 := (h.mem_iff e.1 e.2).mp (by rw [hs]; simp)
  obtain ⟨-, rest, rfl, hend⟩ := readsAt_iff.mp hr
  refine ⟨rest, rfl, ⟨hm.mem_names, hend, fun other rest' ho hor hend' => ?_⟩, hm⟩
  obtain ⟨u, hu⟩ := Registers.exists_means ho
  have hmem := (h.mem_iff other u).mpr hu
  have hro := readsAt_of_mem hne ho hend'
  rw [← hor] at hro
  have hlf := h.longestFirst
  rw [LongestFirst, names, List.pairwise_map, hs] at hlf
  rw [hs] at hmem
  rcases List.mem_append.mp hmem with hmem | hmem
  · -- before the first entry that fits nothing fits
    have := has _ hmem
    rw [hro] at this
    cases this
  · rcases List.mem_cons.mp hmem with heq | hmem
    · exact Nat.le_of_eq (congrArg (fun e => e.1.length) heq)
    · exact (List.pairwise_cons.mp (List.pairwise_append.mp hlf).2.1).1 _ hmem

theorem entryAt?_of_longest (h : L.Lists r) (hne : "" ∉ r.names) (hl : r.Longest name rest)
    (hm : r.Means (String.ofList name) t) : L.entryAt? (name ++ rest) = some (name, t) := by
  cases he : L.entryAt? (name ++ rest) with
  | none =>
    have hno := List.find?_eq_none.mp he _ ((h.mem_iff name t).mpr hm)
    exact absurd (readsAt_of_mem hne hl.mem hl.ends) hno
  | some e =>
    obtain ⟨n, u⟩ := e
    obtain ⟨rest', hs, hl', hm'⟩ := h.longest_of_entryAt? hne he
    obtain ⟨rfl, -⟩ := hl.unique hl' hs
    rw [hm.unique hm']

theorem entryAt?_eq_none_iff (h : L.Lists r) (hne : "" ∉ r.names) :
    L.entryAt? s = none ↔
      ∀ name rest, String.ofList name ∈ r.names → s = name ++ rest → ¬ EndsBefore rest := by
  constructor
  · rintro he name rest hn rfl hend
    obtain ⟨t, ht⟩ := Registers.exists_means hn
    exact List.find?_eq_none.mp he _ ((h.mem_iff name t).mpr ht) (readsAt_of_mem hne hn hend)
  · intro hno
    cases he : L.entryAt? s with
    | none => rfl
    | some e =>
      obtain ⟨rest, hs, hl, -⟩ := h.longest_of_entryAt? hne he
      exact absurd hl.ends (hno e.1 rest hl.mem hs)

end Lexicon.Lists
end Reckoner
