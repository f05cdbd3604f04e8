/-!
# The exact value of a double

A finite double is `± m · 2 ^ q` with `m < 2 ^ 53`. `Binary.ofFloat` reads sign, mantissa and
exponent off the bits, so that rounding and printing can be done on integers. Multiples of `2 ^ q`
and `10 ^ g` are compared and rounded exactly, as quotients of naturals.
-/

namespace Reckoner.Number

/-- What the bits of a double stand for. -/
inductive Binary where
  | finite (negative : Bool) (m : Nat) (q : Int)
  | infinite (negative : Bool)
  | notANumber
  deriving DecidableEq, Repr

/-- A positive quotient of naturals. -/
structure Quotient where
  num : Nat
  den : Nat
  deriving DecidableEq, Repr

namespace Quotient

/-- The quotient `m · 2 ^ q`. -/
def ofBinary (m : Nat) (q : Int) : Quotient :=
  ⟨m * Nat.pow 2 q.toNat, Nat.pow 2 (-q).toNat⟩

/-- `x · 10 ^ k`. -/
def scale (x : Quotient) (k : Int) : Quotient :=
  ⟨x.num * Nat.pow 10 k.toNat, x.den * Nat.pow 10 (-k).toNat⟩

/-- The whole part. -/
def floor (x : Quotient) : Nat :=
  x.num / x.den

/-- The nearest natural, halves to the even one. -/
def round (x : Quotient) : Nat :=
  let whole := x.num / x.den
  let twice := 2 * (x.num % x.den)
  if twice < x.den then whole
  else if x.den < twice then whole + 1
  else whole + whole % 2

/-- How many decimal digits `n` has. -/
def digitCount (n : Nat) : Nat :=
  (Nat.toDigits 10 n).length

/-- The exponent `e` of the leading digit of a positive quotient: `10 ^ e ≤ x < 10 ^ (e + 1)`. -/
def leading (x : Quotient) : Int :=
  if x.den ≤ x.num then digitCount x.floor - 1
  else -(digitCount ((x.den + x.num - 1) / x.num - 1) : Int)

/-- A rounded quotient is within half a unit of the exact one. -/
theorem round_near (x : Quotient) (h : 0 < x.den) :
    2 * (x.round * x.den) ≤ 2 * x.num + x.den ∧ 2 * x.num ≤ 2 * (x.round * x.den) + x.den := by
  have e := Nat.div_add_mod x.num x.den
  have l := Nat.mod_lt x.num h
  simp only [round]
  generalize x.num / x.den = w at *
  generalize x.num % x.den = r at *
  have hw : (w + 1) * x.den = x.den * w + x.den := by rw [Nat.add_mul, Nat.mul_comm]; simp
  have hw0 : w * x.den = x.den * w := Nat.mul_comm ..
  split
  · omega
  · split
    · omega
    · rcases Nat.mod_two_eq_zero_or_one w with h2 | h2
      · simp only [h2, Nat.add_zero]; omega
      · simp only [h2]; omega

end Quotient

namespace Binary

/-- The exponent of the least significant bit of the smallest doubles. -/
def leastExponent : Int := -1074

/-- The bit that tells the sign. -/
def signBit : Nat := 0x8000000000000000

/-- The bit before the fraction, which is not stored. It is the least of the stored exponent. -/
def hiddenBit : Nat := 0x10000000000000

/-- The stored exponent of the values that are not finite. -/
def topExponent : Nat := 0x7ff

/-- Takes the bits of `x` apart. -/
def ofFloat (x : Float) : Binary :=
  let bits := x.toBits.toNat
  let negative := signBit ≤ bits
  let exponent := bits % signBit / hiddenBit
  let fraction := bits % hiddenBit
  if exponent = topExponent then
    if fraction = 0 then .infinite negative else .notANumber
  else if exponent = 0 then .finite negative fraction leastExponent
  else .finite negative (hiddenBit + fraction) (leastExponent + (exponent - 1 : Nat))

/-- The integer that a finite value is equal to, if there is one. -/
def toInt? : Binary → Option Int
  | .finite negative m q =>
    let x := Quotient.ofBinary m q
    if x.num % x.den = 0 then some (if negative then -x.floor else x.floor) else none
  | _ => none

end Binary

example : Binary.ofFloat (-0.75) = .finite true 0x18000000000000 (-53) := by decide +kernel
example : (Binary.ofFloat 1e22).toInt? = some 10000000000000000000000 := by decide +kernel

end Reckoner.Number
