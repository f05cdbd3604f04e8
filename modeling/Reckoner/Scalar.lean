/-!
# Scalars

The numbers that products and conversions are computed with. They run on doubles; on rationals the
same definitions say what is computed when nothing is rounded.
-/

namespace Reckoner

/-- Numbers with the four operations and decimal literals. -/
class Scalar (α : Type) extends Add α, Sub α, Mul α, Div α, OfScientific α

instance : Scalar Float where
instance : Scalar Rat where

/-- A natural number as a scalar. -/
def Scalar.ofNat {α : Type} [Scalar α] (n : Nat) : α :=
  OfScientific.ofScientific n false 0

end Reckoner
