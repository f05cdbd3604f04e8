/-!
# Reading numbers

A literal of an expression is a run of digits with at most one point, and reads as the nearest
double. `ofText?` also reads what the written forms add to that: a sign, an exponent, and the names
of the values that are not finite.
-/

namespace Reckoner.Number

/-- The number that decimal digits spell, read on from `n`. -/
def ofDigits (n : Nat) (digits : List Char) : Nat :=
  digits.foldl (fun n d => 10 * n + (d.toNat - '0'.toNat)) n

/-- Whether a run of digits and points is a literal: one digit at least, one point at most. -/
def isLiteral (run : List Char) : Bool :=
  run.all (fun c => c.isDigit || c == '.') && run.any Char.isDigit && run.count '.' ≤ 1

/-- The double nearest to a literal. -/
def ofLiteral (run : List Char) : Float :=
  let places := (run.dropWhile (· != '.')).drop 1
  Float.ofScientific (ofDigits 0 (run.filter (· != '.'))) true places.length

/-- A run of digits and points, read if it is a literal. -/
def ofLiteral? (run : List Char) : Option Float :=
  if isLiteral run then some (ofLiteral run) else none

/-- A whole number with an optional sign. -/
def ofSigned? : List Char → Option Int
  | '-' :: ds => if ds ≠ [] ∧ ds.all Char.isDigit then some (-(ofDigits 0 ds : Int)) else none
  | '+' :: ds => if ds ≠ [] ∧ ds.all Char.isDigit then some (ofDigits 0 ds : Int) else none
  | ds => if ds ≠ [] ∧ ds.all Char.isDigit then some (ofDigits 0 ds : Int) else none

/-- A literal with an optional exponent, or a value that is not finite. -/
def ofUnsigned? (text : List Char) : Option Float :=
  if text = "inf".toList then some (1.0 / 0.0)
  else if text = "nan".toList then some (0.0 / 0.0)
  else
    let mantissa := text.takeWhile (fun c => c != 'e' && c != 'E')
    let places := ((mantissa.dropWhile (· != '.')).drop 1).length
    let digits := ofDigits 0 (mantissa.filter (· != '.'))
    if !isLiteral mantissa then none
    else
      match text.drop mantissa.length with
      | [] => some (ofLiteral mantissa)
      | _ :: exponent => do
        let e := (← ofSigned? exponent) - places
        return Float.ofScientific digits (e < 0) e.natAbs

/-- The double nearest to a number as it is written. -/
def ofText? (text : String) : Option Float :=
  match text.toList with
  | '-' :: rest => (ofUnsigned? rest).map fun x => -x
  | rest => ofUnsigned? rest

example : ofLiteral? "007.250".toList = some 7.25 ∧ ofLiteral? "1.2.3".toList = none := by
  decide +kernel
example : ofText? "-1e-320" = some (-1e-320) ∧ ofText? "2.5E+3" = some 2500 := by decide +kernel

end Reckoner.Number
