import Mathlib.Logic.Function.Basic
import Reckoner.Units.Basic

/-!
# Routes of conversions

A conversion goes through the base of the dimension or, within a system that is not metric, through
the base of the system (`convert_eq`). Both routes are treated alike. If the ways to a base and back
undo each other, a route may be broken at any unit (`through_trans`), so conversions compose as long
as they keep to one route, and the way back, which takes the same route, undoes a conversion
(`convert_convert`).
-/

namespace Reckoner

/-- The base that values go through. -/
inductive Route where
  | dimension
  | system
  deriving DecidableEq, Repr

def Route.all : List Route := [dimension, system]

theorem Route.mem_all (ρ : Route) : ρ ∈ all := by
  cases ρ <;> decide

/-- Ways that undo each other, where a missing way leads nowhere. -/
structure MutuallyInverse {α : Type} (there back : Option (α → α)) : Prop where
  left : Function.LeftInverse (follow back) (follow there)
  right : Function.RightInverse (follow back) (follow there)

namespace MeasureUnit
variable {α : Type} {u v w : MeasureUnit α}

/-- The way to the base of a route. -/
def there (u : MeasureUnit α) : Route → Option (α → α)
  | .dimension => u.toBase
  | .system => u.toSystemBase

/-- The way from the base of a route. -/
def back (u : MeasureUnit α) : Route → Option (α → α)
  | .dimension => u.fromBase
  | .system => u.fromSystemBase

/-- The value in `v` of `x` in `u`, by way of the base of a route. -/
def through (ρ : Route) (u v : MeasureUnit α) (x : α) : α :=
  follow (v.back ρ) (follow (u.there ρ) x)

/-- The route that a conversion takes. -/
def route (u v : MeasureUnit α) : Route :=
  if u.shareSystemBase v then .system else .dimension

/-- The ways of the unit to and from both bases undo each other. -/
def Invertible (u : MeasureUnit α) : Prop :=
  ∀ ρ, MutuallyInverse (u.there ρ) (u.back ρ)

theorem convert_eq (u v : MeasureUnit α) (x : α) :
    u.convert v x = if u.same v then x else u.through (u.route v) v x := by
  unfold convert route
  split
  · rfl
  · split <;> rfl

theorem same_comm (u v : MeasureUnit α) : u.same v = v.same u :=
  Bool.beq_comm

theorem shareSystemBase_iff :
    u.shareSystemBase v = true ↔
      u.system = v.system ∧ u.dimension = v.dimension ∧ u.system ≠ .metric := by
  simp [shareSystemBase, MeasureSystem.isDefault, and_assoc]

theorem route_comm (u v : MeasureUnit α) : u.route v = v.route u := by
  have h : u.shareSystemBase v = true ↔ v.shareSystemBase u = true := by
    simp only [shareSystemBase_iff]
    constructor <;> rintro ⟨hs, hd, hm⟩ <;> exact ⟨hs.symm, hd.symm, hs ▸ hm⟩
  unfold route
  rw [Bool.eq_iff_iff.mpr h]

theorem through_self (hu : u.Invertible) (ρ : Route) (x : α) : u.through ρ u x = x :=
  (hu ρ).left x

/-- A route may be broken at a unit. -/
theorem through_trans (hv : v.Invertible) (ρ : Route) (x : α) :
    v.through ρ w (u.through ρ v x) = u.through ρ w x := by
  unfold through
  rw [(hv ρ).right]

/-- The way back takes the route of the way there, and undoes it. -/
theorem convert_convert (hu : u.Invertible) (hv : v.Invertible) (x : α) :
    v.convert u (u.convert v x) = x := by
  rw [convert_eq, convert_eq, same_comm v u, route_comm v u]
  split
  · rfl
  · rw [through_trans hv, through_self hu]

/-- Units that are the same are no exception if they are one unit. -/
theorem convert_eq_through {ρ : Route} (hu : u.Invertible) (hsame : u.same v → u = v)
    (hroute : ¬ u.same v → u.route v = ρ) (x : α) : u.convert v x = u.through ρ v x := by
  rw [convert_eq]
  split
  · next h =>
    rw [← hsame h, through_self hu]
  · next h => rw [hroute h]

end MeasureUnit
end Reckoner
