import Mathlib.Tactic.LinearCombination
import Mathlib.Tactic.Ring
import Mathlib.Tactic.Linarith
import Mathlib.Algebra.Order.Field.Rat
import Reckoner.Units.Catalog
import Reckoner.Proofs.Routes

/-!
# Affine ways

Without rounding, every way of a unit in the catalog is affine: it is made of steps, each of which
is. An affine map is known from its values at 0 and 1, so what the catalog's constants decide can be
computed at these two points.
-/

namespace Reckoner

/-- The map adds a multiple of its argument to a constant. -/
def Affine (f : ℚ → ℚ) : Prop :=
  ∃ k c, ∀ x, f x = k * x + c

namespace Affine
variable {f g : ℚ → ℚ}

theorem id : Affine fun x => x :=
  ⟨1, 0, fun x => by ring⟩

theorem comp (hf : Affine f) (hg : Affine g) : Affine fun x => g (f x) := by
  obtain ⟨k, c, hf⟩ := hf
  obtain ⟨m, d, hg⟩ := hg
  exact ⟨m * k, m * c + d, fun x => by
    show g (f x) = _
    rw [hf, hg]
    ring⟩

/-- An affine map is known from two of its values. -/
theorem eq_of_two_points (hf : Affine f) (hg : Affine g) (h0 : f 0 = g 0) (h1 : f 1 = g 1) (x : ℚ) :
    f x = g x := by
  obtain ⟨k, c, hf⟩ := hf
  obtain ⟨m, d, hg⟩ := hg
  simp only [hf, hg] at h0 h1 ⊢
  linear_combination (1 - x) * h0 + x * h1

theorem eq_mul (hf : Affine f) (h0 : f 0 = 0) (x : ℚ) : f x = f 1 * x := by
  obtain ⟨k, c, hf⟩ := hf
  simp only [hf] at h0 ⊢
  linear_combination (1 - x) * h0

theorem step (s : Step ℚ) : Affine s.apply := by
  cases s with
  | add c => exact ⟨1, c, fun x => show x + c = 1 * x + c by ring⟩
  | sub c => exact ⟨1, -c, fun x => show x - c = 1 * x + -c by ring⟩
  | mul c => exact ⟨c, 0, fun x => show x * c = c * x + 0 by ring⟩
  | div c => exact ⟨c⁻¹, 0, fun x => show x / c = c⁻¹ * x + 0 by ring⟩

theorem walk (steps : List (Step ℚ)) : Affine (walk steps) := by
  induction steps with
  | nil => exact .id
  | cons s steps ih => exact (step s).comp ih

theorem none : Affine (follow none) :=
  .id

theorem via (steps : List (Step ℚ)) : Affine (follow (via steps)) :=
  .walk steps

theorem squared {way : Option (ℚ → ℚ)} (h : Affine (follow way)) : Affine (follow (squared way)) := by
  cases way with
  | none => exact .id
  | some f => exact h.comp h

end Affine

namespace MeasureUnit

/-- All ways of the unit are affine. -/
def HasAffineWays (u : MeasureUnit ℚ) : Prop :=
  ∀ ρ, Affine (follow (u.there ρ)) ∧ Affine (follow (u.back ρ))

namespace HasAffineWays
variable {u v : MeasureUnit ℚ} {name : String} {d : Dimension} {s : MeasureSystem}
  {steps steps' steps'' steps''' : List (Step ℚ)}

theorem of_base : HasAffineWays { name := name, dimension := d } := by
  intro ρ
  cases ρ <;> exact ⟨.none, .none⟩

theorem of_metric : (metric name d steps steps').HasAffineWays := by
  intro ρ
  cases ρ
  · exact ⟨.via _, .via _⟩
  · exact ⟨.none, .none⟩

theorem of_systemBase : (systemBase name d s steps steps').HasAffineWays := by
  intro ρ
  cases ρ
  · exact ⟨.via _, .via _⟩
  · exact ⟨.none, .none⟩

theorem of_inSystem : (inSystem name d s steps steps' steps'' steps''').HasAffineWays := by
  intro ρ
  cases ρ <;> exact ⟨.via _, .via _⟩

theorem squareOf (h : u.HasAffineWays) : (squareOf name u).HasAffineWays := by
  intro ρ
  cases ρ
  · exact ⟨(h .dimension).1.squared, (h .dimension).2.squared⟩
  · exact ⟨(h .system).1.squared, (h .system).2.squared⟩

end HasAffineWays

theorem hasAffineWays_of_mem_lengths :
    ∀ u ∈ (Units.lengths : List (MeasureUnit ℚ)), u.HasAffineWays := by
  simp only [Units.lengths, List.forall_mem_cons]
  and_intros
  all_goals first
    | exact .of_base
    | exact .of_metric
    | exact .of_systemBase
    | exact .of_inSystem
    | exact List.forall_mem_nil _

/-- Each unit is made of steps, or the square of one that is. -/
theorem hasAffineWays_of_mem {d : Dimension} :
    ∀ u ∈ (catalog d : List (MeasureUnit ℚ)), u.HasAffineWays := by
  cases d
  case length => exact hasAffineWays_of_mem_lengths
  all_goals
    simp only [catalog, Units.areas, Units.masses, Units.volumes, Units.temperatures,
      Units.powers, Units.torques, Units.forces, Units.energies, List.forall_mem_cons]
    and_intros
    all_goals first
      | exact .of_base
      | exact .of_metric
      | exact .of_systemBase
      | exact .of_inSystem
      | exact List.forall_mem_nil _
      | exact .squareOf (hasAffineWays_of_mem_lengths _ (by simp [Units.lengths]))

theorem affine_through {d : Dimension} {u v : MeasureUnit ℚ} (hu : u ∈ catalog d) (hv : v ∈ catalog d)
    (ρ : Route) : Affine (u.through ρ v) :=
  (hasAffineWays_of_mem u hu ρ).1.comp (hasAffineWays_of_mem v hv ρ).2

end MeasureUnit
end Reckoner
