import Reckoner.Number.Shortest

/-!
# How numbers are written

Two forms. `written` is the form of every answer: the fewest digits that read back, positionally
from `0.0001` up to `10 ^ 16`, otherwise with a signed exponent of at least two digits.
`writtenTo` has a given number of significant digits and always an exponent.
-/

namespace Reckoner.Number

/-- The decimal exponents of the leading digit that are written without an exponent. -/
structure PositionalRange where
  least : Int
  most : Int

/-- Answers are written positionally from `0.0001` to just below `10 ^ 16`. -/
def positional : PositionalRange := ⟨-4, 15⟩

/-- An exponent: its sign, and two digits or more. -/
def exponentText (e : Int) : List Char :=
  let digits := Nat.toDigits 10 e.natAbs
  'e' :: (if e < 0 then '-' else '+') :: (List.replicate (2 - digits.length) '0' ++ digits)

/-- Digits with a point behind the first one, if there are more, and an exponent. -/
def scientificText (digits : List Char) (e : Int) : List Char :=
  match digits with
  | [] => exponentText e
  | [d] => d :: exponentText e
  | d :: ds => d :: '.' :: ds ++ exponentText e

/-- Digits with the point behind place `e`, filled up with zeros, at least one on either side. -/
def positionalText (digits : List Char) (e : Int) : List Char :=
  if e < 0 then '0' :: '.' :: List.replicate (e.natAbs - 1) '0' ++ digits
  else
    let whole := e.toNat + 1
    let places := digits.drop whole
    digits.take whole ++ List.replicate (whole - digits.length) '0' ++
      '.' :: (if places.isEmpty then ['0'] else places)

/-- A numeral in the form of an answer. -/
def Numeral.written (d : Numeral) : List Char :=
  let e := d.leading
  if positional.least ≤ e ∧ e ≤ positional.most then positionalText d.text e
  else scientificText d.text e

/-- The sign of a negative value, of zero too. -/
def signText (negative : Bool) : List Char :=
  if negative then ['-'] else []

/-- A value written by `form` if it is finite and not zero. The value that is no number has no sign. -/
def Binary.writtenWith (form : Nat → Int → List Char) : Binary → String
  | .notANumber => "nan"
  | .infinite negative => String.ofList (signText negative ++ "inf".toList)
  | .finite negative m q =>
    String.ofList (signText negative ++ if m = 0 then "0.0".toList else form m q)

/-- A number in the form of an answer. -/
def written (x : Float) : String :=
  (Binary.ofFloat x).writtenWith fun m q => (Binary.shortest m q).written

/-- `m · 2 ^ q` rounded to `n` significant digits, halves to the even last digit. -/
def Binary.rounded (m : Nat) (q : Int) (n : Nat) : Numeral :=
  let x := Quotient.ofBinary m q
  let exponent := x.leading + 1 - n
  let digits := (x.scale (-exponent)).round
  if digits = Nat.pow 10 n then ⟨digits / 10, exponent + 1⟩ else ⟨digits, exponent⟩

/-- A number with `n` significant digits and an exponent. -/
def writtenTo (n : Nat) (x : Float) : String :=
  (Binary.ofFloat x).writtenWith fun m q =>
    let d := Binary.rounded m q n
    scientificText d.text d.leading

example : written 0.1 = "0.1" ∧ written 1e16 = "1e+16" ∧ written (-0.0) = "-0.0" := by
  decide +kernel
example : writtenTo 3 0.5 = "5.00e-01" ∧ writtenTo 1 9.96e22 = "1e+23" := by decide +kernel

end Reckoner.Number
