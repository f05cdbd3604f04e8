import Reckoner.Number.Binary

/-!
# Rounding to decimal places

A value is rounded to a whole number of units of `10 ^ -k`, halves to the even number of units, and
the result is the double nearest to that. `k` may be negative. More places than any double has leave
a value as it is; so few that no double reaches one unit leave a zero.
-/

namespace Reckoner.Number

/-- No double has a digit past this place. -/
def mostPlaces : Int := 323

/-- Half a unit of fewer places than this is above every double. -/
def leastPlaces : Int := -308

/-- The double nearest to `units · 10 ^ -k`, infinite if that is too large. -/
def ofUnits (units : Nat) (k : Int) : Float :=
  if 0 ≤ k then Float.ofScientific units true k.toNat else Float.ofScientific units false k.natAbs

/-- `x` rounded to `k` places, or nothing if the result is too large for a double. -/
def roundPlaces? (x : Float) (k : Int) : Option Float :=
  match Binary.ofFloat x with
  | .finite negative m q =>
    if mostPlaces < k then some x
    else
      let signed (magnitude : Float) : Float := if negative then -magnitude else magnitude
      if k < leastPlaces then some (signed 0)
      else
        let result := ofUnits ((Quotient.ofBinary m q).scale k).round k
        match Binary.ofFloat result with
        | .infinite _ => none
        | _ => some (signed result)
  | _ => some x

example : roundPlaces? 2.675 2 = some 2.67 ∧ roundPlaces? 2.5 0 = some 2 := by decide +kernel
example : roundPlaces? 1.7e308 (-308) = none := by decide +kernel

end Reckoner.Number
