import Reckoner.Text.DecimalDigit
import Reckoner.Text.WhiteSpace

/-!
# Reading whole numbers

A whole number as a user gives it: an optional sign and digits of any script, between which single
underscores may stand, with white space around it.
-/

namespace Reckoner.Number

/-- The most digits a whole number may have, leading zeros included. -/
def mostWholeDigits : Nat := 4300

/-- White space around a number. The separators U+001C to U+001F are none. -/
def isPadding (c : Char) : Bool :=
  Text.isBlank c && !(0x1c ≤ c.toNat && c.toNat ≤ 0x1f)

/-- The values of digits, between which single underscores may stand. -/
def digits? : List Char → Option (List Nat)
  | [] => none
  | [c] => (Text.digitValue? c).map ([·])
  | c :: '_' :: text => do
    let d ← Text.digitValue? c
    return d :: (← digits? text)
  | c :: text => do
    let d ← Text.digitValue? c
    return d :: (← digits? text)

/-- A whole number without a sign. -/
def ofWholeDigits? (text : List Char) : Option Nat := do
  let digits ← digits? text
  if digits.length ≤ mostWholeDigits then some (digits.foldl (fun n d => 10 * n + d) 0) else none

/-- A whole number. -/
def ofWhole? (text : String) : Option Int :=
  match Text.stripOf isPadding text.toList with
  | '+' :: text => (ofWholeDigits? text).map Int.ofNat
  | '-' :: text => (ofWholeDigits? text).map fun n => -(n : Int)
  | text => (ofWholeDigits? text).map Int.ofNat

example : ofWhole? " -1_0\n" = some (-10) ∧ ofWhole? "４" = some 4 := by decide +kernel
example : ofWhole? "1__0" = none ∧ ofWhole? "_1" = none ∧ ofWhole? "1\x1c" = none := by
  decide +kernel

end Reckoner.Number
