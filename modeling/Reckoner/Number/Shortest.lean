import Reckoner.Number.Binary

/-!
# The fewest digits that read back

A decimal numeral stands for a double if it lies among the reals that round to it. `shortest` takes
the numeral with the fewest digits that does, of two with as many digits the one nearer to the exact
value, and at equal distance the one with the even last digit.
-/

namespace Reckoner.Number

/-- The value `digits · 10 ^ exponent`. -/
structure Numeral where
  digits : Nat
  exponent : Int
  deriving DecidableEq, Repr

namespace Numeral

/-- The digits, most significant first. -/
def text (d : Numeral) : List Char :=
  Nat.toDigits 10 d.digits

/-- The exponent of the leading digit. -/
def leading (d : Numeral) : Int :=
  d.exponent + (d.text.length - 1 : Nat)

/-- Moves up to `fuel` trailing zeros of the digits into the exponent. -/
def stripZeros : Nat → Numeral → Numeral
  | 0, d => d
  | fuel + 1, d =>
    if d.digits ≠ 0 ∧ d.digits % 10 = 0 then stripZeros fuel ⟨d.digits / 10, d.exponent + 1⟩ else d

/-- Compares `digits · 10 ^ exponent` with `n · 2 ^ j`. -/
def compareBinary (d : Numeral) (n : Nat) (j : Int) : Ordering :=
  compare (d.digits * Nat.pow 10 d.exponent.toNat * Nat.pow 2 (-j).toNat)
    (n * Nat.pow 2 j.toNat * Nat.pow 10 (-d.exponent).toNat)

end Numeral

/-- The largest number of digits a double ever needs. -/
def mostDigits : Nat := 17

namespace Binary

/-- Whether `d` is among the reals that round to `m · 2 ^ q`: no farther than halfway to the
neighbours, and just halfway only if `m` is even. Below a power of two the neighbour is nearer. -/
def readsBack (m : Nat) (q : Int) (d : Numeral) : Bool :=
  let below := if m = hiddenBit ∧ leastExponent < q then 4 * m - 1 else 4 * m - 2
  let least := d.compareBinary below (q - 2)
  let most := d.compareBinary (4 * m + 2) (q - 2)
  if m % 2 = 0 then least.isGE && most.isLE else least.isGT && most.isLT

/-- The numeral of `n` digits that reads back as `m · 2 ^ q` and is nearest to it, if any. -/
def nearest? (m : Nat) (q : Int) (n : Nat) : Option Numeral :=
  let x := Quotient.ofBinary m q
  let exponent := x.leading + 1 - n
  let scaled := x.scale (-exponent)
  let down : Numeral := ⟨scaled.floor, exponent⟩
  let up : Numeral := ⟨scaled.floor + 1, exponent⟩
  match readsBack m q down, readsBack m q up with
  | true, true => some ⟨scaled.round, exponent⟩
  | true, false => some down
  | false, true => some up
  | false, false => none

/-- The numeral of `m · 2 ^ q` with all its digits. -/
def exact (m : Nat) (q : Int) : Numeral :=
  ⟨m * Nat.pow 2 q.toNat * Nat.pow 5 (-q).toNat, -((-q).toNat : Int)⟩

/-- The shortest numeral that reads back as `m · 2 ^ q`, without trailing zeros. -/
def shortest (m : Nat) (q : Int) : Numeral :=
  let found := (List.range mostDigits).findSome? fun n => nearest? m q (n + 1)
  (found.getD (exact m q)).stripZeros mostDigits

end Binary

example : Binary.shortest Binary.hiddenBit (-77) = ⟨29802322387695312, -24⟩ := by decide +kernel
example : Binary.shortest 1 (-1074) = ⟨5, -324⟩ := by decide +kernel

end Reckoner.Number
