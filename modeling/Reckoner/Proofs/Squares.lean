import Reckoner.Proofs.ExactConversion

/-!
# Squares of lengths

A way that multiplies by a constant, gone twice, multiplies by its square. So the square of a unit
turns squares of sides into squares of what the unit turns sides into, by either route
(`MeasureUnit.through_squareOf`), and the squares of two units take the route that the units take.
In the catalog all lengths are multiples of each other, and all but two have squares.
-/

namespace Reckoner

/-- The way multiplies by a constant, if it is not missing. -/
def Multiplies (way : Option (ℚ → ℚ)) : Prop :=
  ∀ f, way = some f → ∃ k, ∀ x, f x = k * x

namespace Multiplies
variable {way : Option (ℚ → ℚ)}

theorem exists_factor (h : Multiplies way) : ∃ k, ∀ x, follow way x = k * x := by
  cases way with
  | none => exact ⟨1, fun x => (one_mul x).symm⟩
  | some f => exact h f rfl

theorem of_affine (h : Affine (follow way)) (h0 : follow way 0 = 0) : Multiplies way := by
  rintro f rfl
  exact ⟨f 1, h.eq_mul h0⟩

end Multiplies

theorem follow_squared {α : Type} (way : Option (α → α)) (x : α) :
    follow (squared way) x = follow way (follow way x) := by
  cases way <;> rfl

namespace MeasureUnit
variable {a b : MeasureUnit ℚ} {m n : String}

/-- All ways of the unit multiply by constants. -/
def HasFactors (u : MeasureUnit ℚ) : Prop :=
  ∀ ρ, Multiplies (u.there ρ) ∧ Multiplies (u.back ρ)

section
variable {α : Type}

theorem there_squareOf (m : String) (u : MeasureUnit α) (ρ : Route) :
    (squareOf m u).there ρ = squared (u.there ρ) := by
  cases ρ <;> rfl

theorem back_squareOf (m : String) (u : MeasureUnit α) (ρ : Route) :
    (squareOf m u).back ρ = squared (u.back ρ) := by
  cases ρ <;> rfl

/-- Squares go through the base of a system if and only if their sides do. -/
theorem route_squareOf {u v : MeasureUnit α} (h : u.dimension = v.dimension) (m n : String) :
    (squareOf m u).route (squareOf n v) = u.route v := by
  have hshare : (squareOf m u).shareSystemBase (squareOf n v) = u.shareSystemBase v := by
    simp [shareSystemBase, squareOf, h]
  rw [route, route, hshare]

end

/-- By either route the square of a side becomes the square of what the side becomes. -/
theorem through_squareOf (ha : a.HasFactors) (hb : b.HasFactors) (m n : String) (ρ : Route) (s : ℚ) :
    (squareOf m a).through ρ (squareOf n b) (s * s) = a.through ρ b s ^ 2 := by
  obtain ⟨k, hk⟩ := (ha ρ).1.exists_factor
  obtain ⟨l, hl⟩ := (hb ρ).2.exists_factor
  simp only [through, there_squareOf, back_squareOf, follow_squared, hk, hl]
  ring

theorem convert_squareOf (hd : a.dimension = b.dimension) (ha : a.HasFactors) (hb : b.HasFactors)
    (hname : a.name ≠ b.name) (hmn : m ≠ n) (s : ℚ) :
    (squareOf m a).convert (squareOf n b) (s * s) = a.convert b s ^ 2 := by
  have hsides : a.same b = false := beq_false_of_ne hname
  have hsquares : (squareOf m a).same (squareOf n b) = false := beq_false_of_ne hmn
  rw [convert_eq, convert_eq, hsides, hsquares, route_squareOf hd]
  exact through_squareOf ha hb m n _ s

/-! ### Lengths of the catalog -/

theorem length_ways_zero : ∀ u ∈ (catalog .length : List (MeasureUnit ℚ)), ∀ ρ ∈ Route.all,
    follow (u.there ρ) 0 = 0 ∧ follow (u.back ρ) 0 = 0 := by
  decide +kernel

theorem hasFactors_of_mem_length (ha : a ∈ catalog .length) : a.HasFactors := by
  intro ρ
  obtain ⟨hthere, hback⟩ := hasAffineWays_of_mem a ha ρ
  obtain ⟨h0, h0'⟩ := length_ways_zero a ha ρ (Route.mem_all ρ)
  exact ⟨.of_affine hthere h0, .of_affine hback h0'⟩

/-- Which length an area is the square of can be told from where 1 is taken to. -/
theorem name_of_square_at_one : ∀ a ∈ (catalog .length : List (MeasureUnit ℚ)),
    ∀ q ∈ (catalog .area : List (MeasureUnit ℚ)),
      follow q.toBase 1 = follow a.toBase (follow a.toBase 1) → q.name = "Sq " ++ a.name := by
  decide +kernel

theorem eq_of_squareOf_mem (ha : a ∈ catalog .length) (h : squareOf m a ∈ catalog .area) :
    m = "Sq " ++ a.name :=
  name_of_square_at_one a ha _ h (follow_squared a.toBase 1)

theorem exists_squareOf_mem : ∀ a ∈ (catalog .length : List (MeasureUnit ℚ)),
    a.name ≠ "Lightyear" → a.name ≠ "Parsec" → ∃ m, squareOf m a ∈ catalog .area := by
  simp only [catalog, Units.lengths, Units.areas, List.forall_mem_cons]
  refine ⟨fun _ _ => ⟨"Sq Metre", ?_⟩, fun _ _ => ⟨"Sq Centimetre", ?_⟩,
    fun _ _ => ⟨"Sq Millimetre", ?_⟩, fun _ _ => ⟨"Sq Micrometre", ?_⟩,
    fun _ _ => ⟨"Sq Kilometre", ?_⟩, fun h => absurd rfl h, fun _ h => absurd rfl h,
    fun _ _ => ⟨"Sq Yard", ?_⟩, fun _ _ => ⟨"Sq Foot", ?_⟩, fun _ _ => ⟨"Sq Inch", ?_⟩,
    fun _ _ => ⟨"Sq Mile", ?_⟩, fun _ _ => ⟨"Sq Nautical Mile", ?_⟩, List.forall_mem_nil _⟩
  all_goals simp only [List.mem_cons, true_or, or_true]

theorem convert_squareOf_of_mem (ha : a ∈ catalog .length) (hb : b ∈ catalog .length)
    (hma : squareOf m a ∈ catalog .area) (hnb : squareOf n b ∈ catalog .area) (s : ℚ) :
    (squareOf m a).convert (squareOf n b) (s * s) = a.convert b s ^ 2 := by
  have hm := eq_of_squareOf_mem ha hma
  have hn := eq_of_squareOf_mem hb hnb
  by_cases hname : a.name = b.name
  · -- a unit and itself: neither conversion changes the value
    have hsides : a.same b = true := beq_iff_eq.mpr hname
    have hsquares : (squareOf m a).same (squareOf n b) = true := by
      rw [hm, hn, hname]
      exact beq_self_eq_true _
    rw [convert_eq, convert_eq, hsides, hsquares]
    exact (sq s).symm
  · have hd : a.dimension = b.dimension := by
      rw [dimension_eq _ (Dimension.mem_all _) a ha, dimension_eq _ (Dimension.mem_all _) b hb]
    refine convert_squareOf hd (hasFactors_of_mem_length ha) (hasFactors_of_mem_length hb) hname ?_ s
    rw [hm, hn]
    exact fun h => hname (String.append_right_inj _ |>.mp h)

end MeasureUnit

open MeasureUnit

/-- Areas convert as the squares of lengths, without rounding: for any two units with different names
whose ways are missing or multiply by constants, and for any two lengths of the catalog that have
squares there, which all but two have. It holds of either route, and the squares go by the route of
the sides. -/
theorem convert_squares :
    (∀ a b : MeasureUnit ℚ, a.dimension = b.dimension → a.HasFactors → b.HasFactors →
      a.name ≠ b.name → ∀ m n, m ≠ n →
        (∀ ρ s, (squareOf m a).through ρ (squareOf n b) (s * s) = a.through ρ b s ^ 2) ∧
        (squareOf m a).route (squareOf n b) = a.route b ∧
        ∀ s, (squareOf m a).convert (squareOf n b) (s * s) = a.convert b s ^ 2) ∧
    (∀ a ∈ (catalog .length : List (MeasureUnit ℚ)), ∀ b ∈ (catalog .length : List (MeasureUnit ℚ)),
      ∀ m n, squareOf m a ∈ catalog .area → squareOf n b ∈ catalog .area →
        ∀ s, (squareOf m a).convert (squareOf n b) (s * s) = a.convert b s ^ 2) ∧
    (∀ a ∈ (catalog .length : List (MeasureUnit ℚ)), a.name ≠ "Lightyear" → a.name ≠ "Parsec" →
      ∃ m, squareOf m a ∈ catalog .area) :=
  ⟨fun _ _ hd ha hb hname m n hmn =>
      ⟨through_squareOf ha hb m n, route_squareOf hd m n, convert_squareOf hd ha hb hname hmn⟩,
    fun _ ha _ hb _ _ hma hnb => convert_squareOf_of_mem ha hb hma hnb,
    exists_squareOf_mem⟩

/-- A square of half a mile in square feet, inside the imperial system, and in square metres. -/
theorem convert_squares_mile :
    Units.mile.route (Units.foot : MeasureUnit ℚ) = .system ∧
    (squareOf "Sq Mile" Units.mile).convert (squareOf "Sq Foot" Units.foot) (0.5 * 0.5 : ℚ) =
      2640 ^ 2 ∧
    Units.mile.route (Units.metre : MeasureUnit ℚ) = .dimension ∧
    (squareOf "Sq Mile" Units.mile).convert (squareOf "Sq Metre" Units.metre) (0.5 * 0.5 : ℚ) =
      Units.mile.convert Units.metre 0.5 ^ 2 := by
  have hmile : (Units.mile : MeasureUnit ℚ) ∈ catalog .length := by simp [catalog, Units.lengths]
  have hfoot : (Units.foot : MeasureUnit ℚ) ∈ catalog .length := by simp [catalog, Units.lengths]
  have hsqMile : squareOf "Sq Mile" (Units.mile : MeasureUnit ℚ) ∈ catalog .area := by
    simp [catalog, Units.areas]
  have hsqFoot : squareOf "Sq Foot" (Units.foot : MeasureUnit ℚ) ∈ catalog .area := by
    simp [catalog, Units.areas]
  have hfeet := convert_squares.2.1 _ hmile _ hfoot _ _ hsqMile hsqFoot 0.5
  have hhalf : (Units.mile : MeasureUnit ℚ).convert Units.foot 0.5 = 2640 := by decide +kernel
  rw [hhalf] at hfeet
  have hmetre : (Units.metre : MeasureUnit ℚ) ∈ catalog .length := by simp [catalog, Units.lengths]
  refine ⟨by decide, hfeet, by decide, ?_⟩
  exact (convert_squares.1 Units.mile Units.metre rfl (hasFactors_of_mem_length hmile)
    (hasFactors_of_mem_length hmetre) (by decide) "Sq Mile" "Sq Metre" (by decide)).2.2 0.5

end Reckoner
