import Mathlib.Order.Monotone.Basic
import Reckoner.Proofs.ExactConversion

/-!
# Factors of conversions

Every way of a unit in the catalog takes 0 below 1, so it is a strictly increasing affine map, and so
is a conversion, by either route (`MeasureUnit.convert_strictMono`). Where 0 stays 0, which is in all
dimensions but that of temperatures, a conversion multiplies by the number that it turns 1 into
(`MeasureUnit.convert_eq_mul`).
-/

namespace Reckoner

namespace Affine
variable {f : ℚ → ℚ}

theorem strictMono (hf : Affine f) (h : f 0 < f 1) : StrictMono f := by
  obtain ⟨k, c, hf⟩ := hf
  simp only [hf] at h
  have hk : 0 < k := by linarith
  intro x y hxy
  rw [hf, hf]
  have := mul_lt_mul_of_pos_left hxy hk
  linarith

theorem exists_pos (hf : Affine f) (h : StrictMono f) : ∃ k c, 0 < k ∧ ∀ x, f x = k * x + c := by
  obtain ⟨k, c, hf⟩ := hf
  have h1 : f 0 < f 1 := h one_pos
  simp only [hf] at h1
  exact ⟨k, c, by linarith, hf⟩

end Affine

/-! ### What the constants of the catalog decide -/

theorem ways_zero_lt_one : ∀ d ∈ Dimension.all, ∀ u ∈ (catalog d : List (MeasureUnit ℚ)),
    ∀ ρ ∈ Route.all, follow (u.there ρ) 0 < follow (u.there ρ) 1 ∧
      follow (u.back ρ) 0 < follow (u.back ρ) 1 := by
  decide +kernel

/-! ### Units of the catalog -/

namespace MeasureUnit
variable {d : Dimension} {a b : MeasureUnit ℚ}

/-- A conversion goes by one of the routes, also from a unit to itself. -/
theorem exists_convert_eq (ha : a ∈ catalog d) (hb : b ∈ catalog d) :
    ∃ ρ, a.convert b = a.through ρ b :=
  ⟨a.route b, funext (convert_of_route ha hb fun _ => rfl)⟩

theorem convert_affine (ha : a ∈ catalog d) (hb : b ∈ catalog d) : Affine (a.convert b) := by
  obtain ⟨ρ, h⟩ := exists_convert_eq ha hb
  rw [h]
  exact affine_through ha hb ρ

theorem convert_strictMono (ha : a ∈ catalog d) (hb : b ∈ catalog d) : StrictMono (a.convert b) := by
  obtain ⟨ρ, h⟩ := exists_convert_eq ha hb
  have hthere := (hasAffineWays_of_mem a ha ρ).1
  have hback := (hasAffineWays_of_mem b hb ρ).2
  have ha01 := (ways_zero_lt_one d (Dimension.mem_all d) a ha ρ (Route.mem_all ρ)).1
  have hb01 := (ways_zero_lt_one d (Dimension.mem_all d) b hb ρ (Route.mem_all ρ)).2
  rw [h]
  exact (hback.strictMono hb01).comp (hthere.strictMono ha01)

theorem convert_zero (hd : d ≠ .temperature) (ha : a ∈ catalog d) (hb : b ∈ catalog d) :
    a.convert b 0 = 0 := by
  obtain ⟨ρ, h⟩ := exists_convert_eq ha hb
  rw [h]
  exact through_zero d (Dimension.mem_all d) hd a ha b hb ρ (Route.mem_all ρ)

/-- What 1 becomes is the factor between two units. -/
theorem convert_eq_mul (hd : d ≠ .temperature) (ha : a ∈ catalog d) (hb : b ∈ catalog d) (x : ℚ) :
    a.convert b x = a.convert b 1 * x :=
  (convert_affine ha hb).eq_mul (convert_zero hd ha hb) x

theorem convert_one_pos (hd : d ≠ .temperature) (ha : a ∈ catalog d) (hb : b ∈ catalog d) :
    0 < a.convert b 1 := by
  have h := convert_strictMono ha hb one_pos
  rwa [convert_zero hd ha hb] at h

theorem factor_mul_factor (ha : a ∈ catalog d) (hb : b ∈ catalog d) {k l : ℚ}
    (hk : ∀ x, a.convert b x = k * x) (hl : ∀ x, b.convert a x = l * x) : k * l = 1 := by
  have h := convert_convert (invertible_of_mem ha) (invertible_of_mem hb) 1
  rw [hk, hl] at h
  linear_combination h

end MeasureUnit

open MeasureUnit

/-- Without rounding, a conversion between two units of one dimension is strictly increasing: it
multiplies by a positive number and adds a constant. The constant is there for temperatures alone, so
all else is converted by a factor and sum by sum, and the factors there and back cancel. -/
theorem convert_by_factor {d : Dimension} {a b : MeasureUnit ℚ} (ha : a ∈ catalog d)
    (hb : b ∈ catalog d) :
    StrictMono (a.convert b) ∧
    (∃ k c, 0 < k ∧ ∀ x, a.convert b x = k * x + c) ∧
    (d ≠ .temperature →
      (∃ k, 0 < k ∧ ∀ x, a.convert b x = k * x) ∧
      (∀ x y, a.convert b (x + y) = a.convert b x + a.convert b y) ∧
      ∀ k l, (∀ x, a.convert b x = k * x) → (∀ x, b.convert a x = l * x) → k * l = 1) := by
  have hmono := convert_strictMono ha hb
  refine ⟨hmono, (convert_affine ha hb).exists_pos hmono, fun hd => ⟨?_, ?_, ?_⟩⟩
  · exact ⟨_, convert_one_pos hd ha hb, convert_eq_mul hd ha hb⟩
  · intro x y
    have h := convert_eq_mul hd ha hb
    rw [h (x + y), h x, h y, mul_add]
  · exact fun k l => factor_mul_factor ha hb

/-- Temperatures of two scales, whose zeros differ, and miles in inches inside the imperial system. -/
theorem convert_by_factor_mile :
    (∃ f ∈ (catalog .temperature : List (MeasureUnit ℚ)),
      ∃ k ∈ (catalog .temperature : List (MeasureUnit ℚ)),
        f.name = "Fahrenheit" ∧ k.name = "Kelvin" ∧ StrictMono (f.convert k) ∧
        f.convert k (32 + 9) ≠ f.convert k 32 + f.convert k 9) ∧
    (Units.mile : MeasureUnit ℚ) ∈ catalog .length ∧ (Units.inch : MeasureUnit ℚ) ∈ catalog .length ∧
    Dimension.length ≠ .temperature ∧
    (∀ x : ℚ, Units.mile.convert Units.inch x = 63360 * x) ∧
    ∀ l : ℚ, (∀ x, Units.inch.convert Units.mile x = l * x) → 63360 * l = 1 := by
  have hmile : (Units.mile : MeasureUnit ℚ) ∈ catalog .length := by simp [catalog, Units.lengths]
  have hinch : (Units.inch : MeasureUnit ℚ) ∈ catalog .length := by simp [catalog, Units.lengths]
  have hd : Dimension.length ≠ .temperature := by decide
  obtain ⟨-, -, h⟩ := convert_by_factor hmile hinch
  obtain ⟨⟨k, -, hk⟩, -, hcancel⟩ := h hd
  have hk1 : k = 63360 := by
    have hone : (Units.mile : MeasureUnit ℚ).convert Units.inch 1 = 1 * 1760.0 * 36.0 := rfl
    rw [hk] at hone
    linarith
  subst hk1
  let scales : List (MeasureUnit ℚ) := catalog .temperature
  have hf : scales[2] ∈ scales := List.getElem_mem _
  have hkelvin : scales[1] ∈ scales := List.getElem_mem _
  have hkelvins (x : ℚ) : scales[2].convert scales[1] x = (x - 32.0) / 9.0 * 5.0 + 273.15 := rfl
  refine ⟨⟨scales[2], hf, scales[1], hkelvin, rfl, rfl, (convert_by_factor hf hkelvin).1, ?_⟩, hmile,
    hinch, hd, hk, fun l hl => hcancel _ l hk hl⟩
  rw [hkelvins, hkelvins, hkelvins]
  norm_num

end Reckoner
