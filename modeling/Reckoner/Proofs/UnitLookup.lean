import Reckoner.Proofs.LowerCase
import Reckoner.Units.Catalog

/-!
# Units by their names

A lookup answers from the units with the name that it seeks, among those that it searches
(`Catalog.find_eq`). A search of all dimensions goes through the units of one after the other, so what
it answers can be told from the nine lookups in one dimension each (`Catalog.find_iff`).
-/

namespace Reckoner

/-- A list that is put together from pieces has one element if and only if one piece has. -/
theorem flatMap_eq_singleton_iff {α β : Type} {f : α → List β} {l : List α} (hl : l.Nodup) {b : β} :
    l.flatMap f = [b] ↔ ∃ a ∈ l, f a = [b] ∧ ∀ a' ∈ l, a' ≠ a → f a' = [] := by
  induction l with
  | nil => simp
  | cons a l ih =>
    obtain ⟨ha, hl⟩ := List.nodup_cons.mp hl
    rw [List.flatMap_cons, List.append_eq_singleton_iff, ih hl, List.flatMap_eq_nil_iff]
    constructor
    · rintro (⟨hnil, a', ha', hb, hothers⟩ | ⟨hb, hothers⟩)
      · refine ⟨a', .tail _ ha', hb, fun c hc hne => ?_⟩
        rcases List.mem_cons.mp hc with rfl | hc
        · exact hnil
        · exact hothers c hc hne
      · refine ⟨a, List.mem_cons_self, hb, fun c hc hne => ?_⟩
        rcases List.mem_cons.mp hc with rfl | hc
        · exact absurd rfl hne
        · exact hothers c hc
    · rintro ⟨a', ha', hb, hothers⟩
      rcases List.mem_cons.mp ha' with rfl | ha'
      · exact .inr ⟨hb, fun c hc => hothers c (.tail _ hc) fun h => ha (h ▸ hc)⟩
      · exact .inl ⟨hothers a List.mem_cons_self fun h => ha (h ▸ ha'), a', ha', hb,
          fun c hc => hothers c (.tail _ hc)⟩

theorem Dimension.nodup_all : all.Nodup := by
  decide

namespace Catalog
variable {α : Type}

/-- Every unit is listed under its dimension. -/
def Sorted (units : Catalog α) : Prop :=
  ∀ d, ∀ u ∈ units d, u.dimension = d

/-- The units that are searched for one of a dimension, or of any. -/
def searched (units : Catalog α) : Option Dimension → List (MeasureUnit α)
  | none => Dimension.all.flatMap units
  | some d => units d

/-- What is answered if `us` are all the units of the name that `text` asks for. -/
def answer (text : String) : List (MeasureUnit α) → Except ConversionError (MeasureUnit α)
  | [] => .error (.noSuchUnit text)
  | [u] => .ok u
  | us => .error (.ambiguousUnit text (us.map (·.dimension)))

/-- The units of the name that `text` asks for. -/
def named (text : String) (us : List (MeasureUnit α)) : List (MeasureUnit α) :=
  us.filter fun u => key u == sought text

/-- `u` is in the list, and no other unit there has its name up to case. -/
def Only (u : MeasureUnit α) (us : List (MeasureUnit α)) : Prop :=
  ∃ before after, us = before ++ u :: after ∧ ∀ v ∈ before ++ after, key v ≠ key u

/-- Two texts get the same unit, or neither gets one for the same reason. -/
inductive SameAnswer (s t : String) :
    Except ConversionError (MeasureUnit α) → Except ConversionError (MeasureUnit α) → Prop
  | found (u : MeasureUnit α) : SameAnswer s t (.ok u) (.ok u)
  | missing : SameAnswer s t (.error (.noSuchUnit s)) (.error (.noSuchUnit t))
  | ambiguous (ds : List Dimension) :
    SameAnswer s t (.error (.ambiguousUnit s ds)) (.error (.ambiguousUnit t ds))

section
variable {units : Catalog α} {text : String} {u : MeasureUnit α} {us : List (MeasureUnit α)}

theorem find_eq (units : Catalog α) (text : String) (dimension : Option Dimension) :
    units.find text dimension = answer text (named text (units.searched dimension)) := by
  have hcandidates : units.candidates (dimension.elim Dimension.all ([·])) text =
      named text (units.searched dimension) := by
    cases dimension with
    | none => exact List.filter_flatMap.symm
    | some d => exact List.append_nil _
  rw [← hcandidates]
  cases dimension <;> rfl

theorem named_none (units : Catalog α) (text : String) :
    named text (units.searched none) = Dimension.all.flatMap fun d => named text (units d) :=
  List.filter_flatMap

theorem answer_eq_ok_iff : answer text us = .ok u ↔ us = [u] := by
  match us with
  | [] => simp [answer]
  | [v] => simp [answer]
  | _ :: _ :: _ => simp [answer]

theorem answer_eq_noSuchUnit_iff :
    answer text us = .error (.noSuchUnit text) ↔ us = [] := by
  match us with
  | [] => simp [answer]
  | [v] => simp [answer]
  | _ :: _ :: _ => simp [answer]

theorem answer_of_ambiguous (hok : ∀ u, answer text us ≠ .ok u)
    (hnone : answer text us ≠ .error (.noSuchUnit text)) :
    answer text us = .error (.ambiguousUnit text (us.map (·.dimension))) := by
  match us with
  | [] => exact absurd rfl hnone
  | [v] => exact absurd rfl (hok v)
  | _ :: _ :: _ => rfl

theorem named_eq_singleton_iff : named text us = [u] ↔ key u = sought text ∧ Only u us := by
  simp only [named, List.filter_eq_cons_iff, List.filter_eq_nil_iff, beq_iff_eq]
  constructor
  · rintro ⟨before, after, rfl, hbefore, hkey, hafter⟩
    refine ⟨hkey, before, after, rfl, fun v hv => ?_⟩
    rw [hkey]
    rcases List.mem_append.mp hv with hv | hv
    · exact hbefore v hv
    · exact hafter v hv
  · rintro ⟨hkey, before, after, rfl, hothers⟩
    rw [hkey] at hothers
    exact ⟨before, after, rfl, fun v hv => hothers v (List.mem_append_left _ hv), hkey,
      fun v hv => hothers v (List.mem_append_right _ hv)⟩

theorem find_eq_ok_iff {dimension : Option Dimension} :
    units.find text dimension = .ok u ↔ key u = sought text ∧ Only u (units.searched dimension) := by
  rw [find_eq, answer_eq_ok_iff, named_eq_singleton_iff]

theorem sought_eq_key (hstrip : Text.strip u.name.toList = u.name.toList)
    (hlower : Text.lower text.toList = Text.lower u.name.toList) : sought text = key u := by
  rw [sought, (Text.strip_eq_self_iff_of_lower_eq hlower).mpr hstrip, hlower, key]

theorem sameAnswer {s t : String} (h : sought s = sought t) (units : Catalog α)
    (dimension : Option Dimension) :
    SameAnswer s t (units.find s dimension) (units.find t dimension) := by
  have hnamed : named s (units.searched dimension) = named t (units.searched dimension) := by
    rw [named, named, h]
  rw [find_eq, find_eq, hnamed]
  match named t (units.searched dimension) with
  | [] => exact .missing
  | [u] => exact .found u
  | _ :: _ :: _ => exact .ambiguous _

/-- The dimensions of the units of a name, each as often as it has such units. -/
theorem Sorted.map_dimension (hunits : units.Sorted) (text : String) :
    (named text (units.searched none)).map (·.dimension) =
      Dimension.all.flatMap fun d =>
        List.replicate ((units d).countP fun u => key u == sought text) d := by
  rw [named_none, List.map_flatMap]
  refine List.flatMap_congr fun d _ => ?_
  rw [List.countP_eq_length_filter, List.eq_replicate_iff, List.length_map]
  refine ⟨rfl, fun d' hd' => ?_⟩
  obtain ⟨u, hu, rfl⟩ := List.mem_map.mp hd'
  exact hunits d u (List.mem_of_mem_filter hu)

end

/-- What a lookup in all dimensions answers, from what the lookups in one dimension each do: the one
unit that these find, if one of them finds a unit and all others none, that there is no such unit, if
they all find none, and else every dimension as often as it has units of the name. A lookup finds the
only unit of the name that is sought. White space around a text does not matter, nor does case, and a
unit can be found by its own name in any case. -/
theorem find_iff (units : Catalog α) (hunits : units.Sorted) (text : String) :
    (∀ u, units.find text none = .ok u ↔ ∃ d, units.find text (some d) = .ok u ∧
      ∀ d', d' ≠ d → units.find text (some d') = .error (.noSuchUnit text)) ∧
    (units.find text none = .error (.noSuchUnit text) ↔
      ∀ d, units.find text (some d) = .error (.noSuchUnit text)) ∧
    ((∀ u, units.find text none ≠ .ok u) →
      units.find text none ≠ .error (.noSuchUnit text) →
      units.find text none = .error (.ambiguousUnit text (Dimension.all.flatMap fun d =>
        List.replicate ((units d).countP fun u => key u == sought text) d))) ∧
    (∀ dimension u, units.find text dimension = .ok u ↔
      key u = sought text ∧ Only u (units.searched dimension)) ∧
    (∀ dimension other, sought other = sought text →
      SameAnswer other text (units.find other dimension) (units.find text dimension)) ∧
    ∀ dimension u, Only u (units.searched dimension) →
      Text.strip u.name.toList = u.name.toList →
      Text.lower text.toList = Text.lower u.name.toList → units.find text dimension = .ok u := by
  refine ⟨fun u => ?_, ?_, fun hok hnone => ?_, fun _ _ => find_eq_ok_iff,
    fun dimension other h => sameAnswer h units dimension,
    fun dimension u honly hstrip hlower =>
      find_eq_ok_iff.mpr ⟨(sought_eq_key hstrip hlower).symm, honly⟩⟩
  · -- the pieces that the search of all is put together from are the searches of one each
    simp only [find_eq, answer_eq_ok_iff, answer_eq_noSuchUnit_iff]
    rw [named_none, flatMap_eq_singleton_iff Dimension.nodup_all]
    simp only [Dimension.mem_all, true_and, forall_const, searched]
  · simp only [find_eq, answer_eq_noSuchUnit_iff]
    rw [named_none, List.flatMap_eq_nil_iff]
    simp only [Dimension.mem_all, forall_const, searched]
  · rw [find_eq] at hok hnone ⊢
    rw [answer_of_ambiguous hok hnone, hunits.map_dimension]

/-- Three marks in two dimensions, and an øre that is the only one. -/
def marks : Catalog Float
  | .length => [{ name := "Mark", dimension := .length }]
  | .mass => [{ name := "MARK", dimension := .mass }, { name := "mark", dimension := .mass }]
  | .energy => [{ name := "Øre", dimension := .energy }]
  | _ => []

theorem find_marks :
    marks.Sorted ∧
    marks.find "\tmArk " none = .error (.ambiguousUnit "\tmArk " [.length, .mass, .mass]) ∧
    marks.find "øRE" none = .ok { name := "Øre", dimension := .energy } := by
  have hmarks : marks.Sorted := by
    intro d
    cases d <;> decide
  have hthree : (named "\tmArk " (marks.searched none)).length = 3 := by decide +kernel
  obtain ⟨-, -, hambiguous, -⟩ := find_iff marks hmarks "\tmArk "
  obtain ⟨-, -, -, -, -, hown⟩ := find_iff marks hmarks "øRE"
  refine ⟨hmarks, (hambiguous (fun u h => ?_) fun h => ?_).trans ?_, ?_⟩
  · rw [find_eq, answer_eq_ok_iff] at h
    rw [h] at hthree
    cases hthree
  · rw [find_eq, answer_eq_noSuchUnit_iff] at h
    rw [h] at hthree
    cases hthree
  · have hdimensions : (Dimension.all.flatMap fun d =>
        List.replicate ((marks d).countP fun u => key u == sought "\tmArk ") d) =
          [.length, .mass, .mass] := by
      decide +kernel
    rw [hdimensions]
  · exact hown none _ ⟨marks .length ++ marks .mass, [], rfl, by decide +kernel⟩
      (by decide +kernel) (by decide +kernel)

end Catalog
end Reckoner
