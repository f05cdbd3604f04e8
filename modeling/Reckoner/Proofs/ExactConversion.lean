import Mathlib.Algebra.Order.Ring.Abs
import Mathlib.Data.List.Nodup
import Reckoner.Proofs.AffineWays

/-!
# Exact conversions

What holds of the conversions of the catalog without rounding. They can be undone (`convert_back`),
and a unit in between makes no difference as long as all goes by one route (`convert_by_way_of`).
The two routes between units of one system were measured apart, so they differ, by less than
`1e-5` of the value; a unit in between changes a value by no more than that, since of the three
conversions at most one takes the other route. Only temperatures are not multiples of each other,
and their two routes never meet.
-/

namespace Reckoner

/-- `x` differs from `y` by at most `1e-5` of `y`. -/
def Near (x y : ℚ) : Prop :=
  |x - y| ≤ 1e-5 * |y|

instance (x y : ℚ) : Decidable (Near x y) :=
  inferInstanceAs (Decidable (_ ≤ _))

namespace Near
variable {f g : ℚ → ℚ} {x y : ℚ}

theorem refl (x : ℚ) : Near x x := by
  unfold Near
  rw [sub_self, abs_zero]
  positivity

theorem mul_left (k : ℚ) (h : Near x y) : Near (k * x) (k * y) := by
  unfold Near at *
  rw [← mul_sub, abs_mul, abs_mul, mul_left_comm]
  exact mul_le_mul_of_nonneg_left h (abs_nonneg k)

theorem map (hf : Affine f) (h0 : f 0 = 0) (h : Near x y) : Near (f x) (f y) := by
  rw [hf.eq_mul h0 x, hf.eq_mul h0 y]
  exact h.mul_left (f 1)

/-- Maps without a constant part are near everywhere if they are at 1. -/
theorem of_one (hf : Affine f) (hg : Affine g) (hf0 : f 0 = 0) (hg0 : g 0 = 0)
    (h : Near (f 1) (g 1)) (x : ℚ) : Near (f x) (g x) := by
  rw [hf.eq_mul hf0, hg.eq_mul hg0, mul_comm, mul_comm (g 1)]
  exact h.mul_left x

end Near

/-! ### What the constants of the catalog decide -/

theorem inverse_at_points : ∀ d ∈ Dimension.all, ∀ u ∈ (catalog d : List (MeasureUnit ℚ)),
    ∀ ρ ∈ Route.all, ∀ x ∈ [(0 : ℚ), 1], follow (u.back ρ) (follow (u.there ρ) x) = x ∧
      follow (u.there ρ) (follow (u.back ρ) x) = x := by
  decide +kernel

theorem dimension_eq : ∀ d ∈ Dimension.all, ∀ u ∈ (catalog d : List (MeasureUnit ℚ)),
    u.dimension = d := by
  decide +kernel

theorem names_nodup : ∀ d ∈ Dimension.all,
    ((catalog d : List (MeasureUnit ℚ)).map (·.name)).Nodup := by
  decide +kernel

theorem through_zero : ∀ d ∈ Dimension.all, d ≠ .temperature →
    ∀ u ∈ (catalog d : List (MeasureUnit ℚ)), ∀ v ∈ (catalog d : List (MeasureUnit ℚ)),
      ∀ ρ ∈ Route.all, u.through ρ v 0 = 0 := by
  decide +kernel

theorem routes_near_at_one : ∀ d ∈ Dimension.all, d ≠ .temperature →
    ∀ u ∈ (catalog d : List (MeasureUnit ℚ)), ∀ v ∈ (catalog d : List (MeasureUnit ℚ)),
      u.route v = .system → Near (u.through .system v 1) (u.through .dimension v 1) ∧
        Near (u.through .dimension v 1) (u.through .system v 1) := by
  decide +kernel

theorem temperature_route : ∀ u ∈ (catalog .temperature : List (MeasureUnit ℚ)),
    ∀ v ∈ (catalog .temperature : List (MeasureUnit ℚ)), ¬ u.same v → u.route v = .dimension := by
  decide +kernel

/-! ### Units of the catalog -/

namespace MeasureUnit
variable {d : Dimension} {u v a b c : MeasureUnit ℚ}

theorem invertible_of_mem (hu : u ∈ catalog d) : u.Invertible := by
  intro ρ
  obtain ⟨hthere, hback⟩ := hasAffineWays_of_mem u hu ρ
  -- there and back is affine, so it is the identity if it keeps 0 and 1
  have hpoints := inverse_at_points d (Dimension.mem_all d) u hu ρ (Route.mem_all ρ)
  obtain ⟨h0, h0'⟩ := hpoints 0 (List.mem_cons_self ..)
  obtain ⟨h1, h1'⟩ := hpoints 1 (List.mem_cons_of_mem _ (List.mem_cons_self ..))
  exact ⟨(hthere.comp hback).eq_of_two_points .id h0 h1,
    (hback.comp hthere).eq_of_two_points .id h0' h1'⟩

theorem eq_of_same (hu : u ∈ catalog d) (hv : v ∈ catalog d) (h : u.same v) : u = v :=
  List.inj_on_of_nodup_map (names_nodup d (Dimension.mem_all d)) hu hv (beq_iff_eq.mp h)

/-- The two units belong to one system that is not metric. -/
def Shares (u v : MeasureUnit ℚ) : Prop :=
  u.system = v.system ∧ u.system ≠ .metric

theorem route_eq_system_iff (hu : u ∈ catalog d) (hv : v ∈ catalog d) :
    u.route v = .system ↔ u.Shares v := by
  have hdim : u.dimension = v.dimension := by
    rw [dimension_eq d (Dimension.mem_all d) u hu, dimension_eq d (Dimension.mem_all d) v hv]
  have h : u.shareSystemBase v = true ↔ u.Shares v := by
    rw [shareSystemBase_iff]
    exact ⟨fun h => ⟨h.1, h.2.2⟩, fun h => ⟨h.1, hdim, h.2⟩⟩
  unfold route
  split
  · next hs => exact ⟨fun _ => h.mp hs, fun _ => rfl⟩
  · next hs => exact ⟨fun hr => (by cases hr), fun hsh => absurd (h.mpr hsh) hs⟩

theorem convert_of_route {ρ : Route} (hu : u ∈ catalog d) (hv : v ∈ catalog d)
    (h : ¬ u.same v → u.route v = ρ) (x : ℚ) : u.convert v x = u.through ρ v x :=
  convert_eq_through (invertible_of_mem hu) (eq_of_same hu hv) h x

theorem convert_of_shares (hu : u ∈ catalog d) (hv : v ∈ catalog d) (h : u.Shares v) (x : ℚ) :
    u.convert v x = u.through .system v x :=
  convert_of_route hu hv (fun _ => (route_eq_system_iff hu hv).mpr h) x

theorem convert_of_not_shares (hu : u ∈ catalog d) (hv : v ∈ catalog d)
    (h : ¬ u.same v → ¬ u.Shares v) (x : ℚ) : u.convert v x = u.through .dimension v x := by
  refine convert_of_route hu hv (fun hs => ?_) x
  have hne := mt (route_eq_system_iff hu hv).mp (h hs)
  cases hr : u.route v with
  | dimension => rfl
  | system => exact absurd hr hne

/-- A unit in between makes no difference on one route. -/
theorem convert_trans {ρ : Route} (hb : b.Invertible)
    (hab : ∀ x, a.convert b x = a.through ρ b x) (hbc : ∀ x, b.convert c x = b.through ρ c x)
    (hac : ∀ x, a.convert c x = a.through ρ c x) (x : ℚ) :
    b.convert c (a.convert b x) = a.convert c x := by
  rw [hab, hbc, hac, through_trans hb]

/-- The two routes between units of one system are near each other. -/
theorem routes_near (hd : d ≠ .temperature) (hu : u ∈ catalog d) (hv : v ∈ catalog d)
    (h : u.Shares v) (x : ℚ) : Near (u.through .system v x) (u.through .dimension v x) ∧
      Near (u.through .dimension v x) (u.through .system v x) := by
  have hzero := through_zero d (Dimension.mem_all d) hd u hu v hv
  have hs0 := hzero .system (Route.mem_all _)
  have hd0 := hzero .dimension (Route.mem_all _)
  have hs := affine_through hu hv .system
  have hb := affine_through hu hv .dimension
  have hroute := (route_eq_system_iff hu hv).mpr h
  obtain ⟨h1, h1'⟩ := routes_near_at_one d (Dimension.mem_all d) hd u hu v hv hroute
  exact ⟨.of_one hs hb hs0 hd0 h1 x, .of_one hb hs hd0 hs0 h1' x⟩

theorem not_shares_of_temperature (hd : d = .temperature) (hu : u ∈ catalog d) (hv : v ∈ catalog d)
    (hs : ¬ u.same v) : ¬ u.Shares v := by
  subst hd
  rw [← route_eq_system_iff hu hv, temperature_route u hu v hv hs]
  decide

/-- A conversion is near the route through the base of the dimension, in both directions. -/
theorem convert_near (hu : u ∈ catalog d) (hv : v ∈ catalog d) (x : ℚ) :
    Near (u.convert v x) (u.through .dimension v x) ∧
      Near (u.through .dimension v x) (u.convert v x) := by
  by_cases h : ¬ u.same v → ¬ u.Shares v
  · rw [convert_of_not_shares hu hv h]
    exact ⟨.refl _, .refl _⟩
  · obtain ⟨hs, hsh⟩ := Classical.not_imp.mp h
    have hsh := not_not.mp hsh
    have hd : d ≠ .temperature := fun hd => not_shares_of_temperature hd hu hv hs hsh
    rw [convert_of_shares hu hv hsh]
    exact routes_near hd hu hv hsh x

/-- Of three units, two pairs of which share a system, all share it. -/
theorem convert_trans_of_shares (ha : a ∈ catalog d) (hb : b ∈ catalog d) (hc : c ∈ catalog d)
    (hab : a.Shares b) (hbc : b.Shares c) (x : ℚ) : b.convert c (a.convert b x) = a.convert c x := by
  have hac : a.Shares c := ⟨hab.1.trans hbc.1, hab.2⟩
  exact convert_trans (invertible_of_mem hb) (convert_of_shares ha hb hab)
    (convert_of_shares hb hc hbc) (convert_of_shares ha hc hac) x

theorem convert_trans_of_not_shares (ha : a ∈ catalog d) (hb : b ∈ catalog d) (hc : c ∈ catalog d)
    (hab : ¬ a.same b → ¬ a.Shares b) (hbc : ¬ b.same c → ¬ b.Shares c)
    (hac : ¬ a.same c → ¬ a.Shares c) (x : ℚ) : b.convert c (a.convert b x) = a.convert c x :=
  convert_trans (invertible_of_mem hb) (convert_of_not_shares ha hb hab)
    (convert_of_not_shares hb hc hbc) (convert_of_not_shares ha hc hac) x

/-- A unit in between keeps a value near. -/
theorem near_convert_convert (ha : a ∈ catalog d) (hb : b ∈ catalog d) (hc : c ∈ catalog d) (x : ℚ) :
    Near (b.convert c (a.convert b x)) (a.convert c x) := by
  by_cases hd : d = .temperature
  · have hno := fun {u v} hu hv => not_shares_of_temperature (u := u) (v := v) hd hu hv
    rw [convert_trans_of_not_shares ha hb hc (hno ha hb) (hno hb hc) (hno ha hc)]
    exact .refl _
  have htrans := through_trans (u := a) (w := c) (invertible_of_mem hb) .dimension x
  by_cases hab : a.Shares b
  · by_cases hbc : b.Shares c
    · rw [convert_trans_of_shares ha hb hc hab hbc]
      exact .refl _
    · -- only the first conversion goes through the system
      have hac : ¬ a.Shares c := fun h => hbc ⟨hab.1.symm.trans h.1, hab.1 ▸ hab.2⟩
      rw [convert_of_not_shares hb hc fun _ => hbc, convert_of_not_shares ha hc fun _ => hac, ← htrans]
      refine .map (affine_through hb hc .dimension) ?_ (convert_near ha hb x).1
      exact through_zero d (Dimension.mem_all d) hd b hb c hc .dimension (Route.mem_all _)
  · rw [convert_of_not_shares ha hb fun _ => hab]
    by_cases hbc : b.Shares c
    · -- only the second
      have hac : ¬ a.Shares c := fun h => hab ⟨h.1.trans hbc.1.symm, h.2⟩
      rw [convert_of_not_shares ha hc fun _ => hac, ← htrans]
      exact (convert_near hb hc _).1
    · -- at most the conversion without a stop
      rw [convert_of_not_shares hb hc fun _ => hbc, htrans]
      exact (convert_near ha hc x).2

end MeasureUnit

open MeasureUnit

/-- A conversion and then the one back give the value again, for any two units whose ways undo each
other, and so for all units of one dimension of the catalog. -/
theorem convert_back :
    (∀ (α : Type) (u v : MeasureUnit α), u.Invertible → v.Invertible →
      ∀ x, v.convert u (u.convert v x) = x) ∧
    (∀ d, ∀ u ∈ (catalog d : List (MeasureUnit ℚ)), u.Invertible) ∧
    (∀ d, ∀ a ∈ (catalog d : List (MeasureUnit ℚ)), ∀ b ∈ (catalog d : List (MeasureUnit ℚ)),
      ∀ x, b.convert a (a.convert b x) = x) := by
  refine ⟨fun α u v hu hv => convert_convert hu hv, fun d u => invertible_of_mem, ?_⟩
  intro d a ha b hb x
  exact convert_convert (invertible_of_mem ha) (invertible_of_mem hb) x

/-- Between the base and a system, and inside the system. -/
theorem convert_back_mile :
    (Units.metre : MeasureUnit ℚ).Invertible ∧ (Units.mile : MeasureUnit ℚ).Invertible ∧
    Units.mile.convert Units.metre (Units.metre.convert Units.mile (23.66 : ℚ)) = 23.66 ∧
    Units.inch.convert Units.mile (Units.mile.convert Units.inch (23.66 : ℚ)) = 23.66 := by
  have hmetre : (Units.metre : MeasureUnit ℚ) ∈ catalog .length := by simp [catalog, Units.lengths]
  have hmile : (Units.mile : MeasureUnit ℚ) ∈ catalog .length := by simp [catalog, Units.lengths]
  have hinch : (Units.inch : MeasureUnit ℚ) ∈ catalog .length := by simp [catalog, Units.lengths]
  have hm := convert_back.2.1 .length _ hmetre
  have hl := convert_back.2.1 .length _ hmile
  exact ⟨hm, hl, convert_back.1 ℚ _ _ hm hl _, convert_back.2.2 .length _ hmile _ hinch _⟩

/-- A unit in between makes no difference if all three belong to one system or no two different ones
share one, metric units apart, and never more than `1e-5`. The same bound holds between a conversion
and the route through the base of the dimension. -/
theorem convert_by_way_of {d : Dimension} {a b c : MeasureUnit ℚ} (ha : a ∈ catalog d)
    (hb : b ∈ catalog d) (hc : c ∈ catalog d) (x : ℚ) :
    ((∃ s : MeasureSystem, s ≠ .metric ∧ ∀ u ∈ [a, b, c], u.system = s) ∨
      (∀ u ∈ [a, b, c], ∀ v ∈ [a, b, c], ¬ u.same v → ¬ u.Shares v) →
        b.convert c (a.convert b x) = a.convert c x) ∧
    Near (b.convert c (a.convert b x)) (a.convert c x) ∧
    Near (a.convert b x) (a.through .dimension b x) := by
  refine ⟨?_, near_convert_convert ha hb hc x, (convert_near ha hb x).1⟩
  rintro (⟨s, hs, h⟩ | h)
  · have hall : ∀ u ∈ [a, b, c], ∀ v ∈ [a, b, c], u.Shares v := fun u hu v hv =>
      ⟨(h u hu).trans (h v hv).symm, h u hu ▸ hs⟩
    exact convert_trans_of_shares ha hb hc (hall a (by simp) b (by simp))
      (hall b (by simp) c (by simp)) x
  · exact convert_trans_of_not_shares ha hb hc (h a (by simp) b (by simp))
      (h b (by simp) c (by simp)) (h a (by simp) c (by simp)) x

/-- Inside the imperial system a square foot in between changes nothing. An acre between square inches
and hectares does, within the bound. -/
theorem convert_by_way_of_acre :
    (squareOf "Sq Foot" Units.foot).convert Units.acre
        ((squareOf "Sq Inch" Units.inch).convert (squareOf "Sq Foot" Units.foot) (7 : ℚ)) =
      (squareOf "Sq Inch" Units.inch).convert Units.acre 7 ∧
    Near (Units.acre.convert Units.hectare
        ((squareOf "Sq Inch" Units.inch).convert Units.acre (7 : ℚ)))
      ((squareOf "Sq Inch" Units.inch).convert Units.hectare 7) ∧
    Units.acre.convert Units.hectare ((squareOf "Sq Inch" Units.inch).convert Units.acre (7 : ℚ)) ≠
      (squareOf "Sq Inch" Units.inch).convert Units.hectare 7 := by
  have hinch : (squareOf "Sq Inch" Units.inch : MeasureUnit ℚ) ∈ catalog .area := by
    simp [catalog, Units.areas]
  have hfoot : (squareOf "Sq Foot" Units.foot : MeasureUnit ℚ) ∈ catalog .area := by
    simp [catalog, Units.areas]
  have hacre : (Units.acre : MeasureUnit ℚ) ∈ catalog .area := by simp [catalog, Units.areas]
  have hhectare : (Units.hectare : MeasureUnit ℚ) ∈ catalog .area := by simp [catalog, Units.areas]
  refine ⟨(convert_by_way_of hinch hfoot hacre 7).1 (.inl ⟨.imperial, by decide, ?_⟩),
    (convert_by_way_of hinch hacre hhectare 7).2.1, by decide +kernel⟩
  simp [squareOf, Units.inch, Units.foot, Units.acre, inSystem]

end Reckoner
