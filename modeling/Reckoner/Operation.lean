import Reckoner.AngleMode
import Reckoner.Number.Binary
import Reckoner.Scalar

/-!
# Operations of one number

The functions an expression can apply. Trigonometric functions take their argument in the angle mode
and the inverse ones give their result in it; the others ignore it. An operation is total: where
mathematics has no value the result is infinite or no number.
-/

namespace Reckoner

/-- Beyond any number. -/
def infinity : Float := 1.0 / 0.0

/-- The result where there is none. -/
def undefinedResult : Float := 0.0 / 0.0

/-- `2 · 3 ⋯ (n - 1) · x` from the left, where `x` is the number `n`. For `n` up to 2 that is `x`. -/
def factorialProduct {α : Type} [Scalar α] (n : Int) (x : α) : α :=
  ((List.range (n.toNat - 2)).foldl (fun product i => product * Scalar.ofNat (i + 2)) 1.0) * x

/-- The largest number whose factorial is a finite double. -/
def factorialLimit : Float := 170

/-- The factorial of a whole number. One above the limit is infinite, a fraction has none, and zero
and the negative whole numbers give themselves. -/
def factorial (x : Float) : Float :=
  if factorialLimit < x then infinity
  else
    match Number.Binary.ofFloat x with
    | .infinite _ => x
    | value =>
      match value.toInt? with
      | some n => factorialProduct n x
      | none => undefinedResult

/-- An operation of one number. -/
inductive Operation where
  | sin | cos | tan
  | asin | acos | atan
  | cosec | sec | cot
  | acosec | asec | acot
  | sinh | cosh | tanh
  | asinh | acosh | atanh
  | exp | ln | log | log2
  | sqrt | abs | ceil | floor
  | factorial
  deriving DecidableEq, Repr

namespace Operation

/-- Every operation, in the order in which they are listed. -/
def all : List Operation :=
  [sin, cos, tan, asin, acos, atan, cosec, sec, cot, acosec, asec, acot, sinh, cosh, tanh,
   asinh, acosh, atanh, exp, ln, log, log2, sqrt, abs, ceil, floor, factorial]

/-- The name by which expressions call an operation. -/
def name : Operation → String
  | sin => "sin" | cos => "cos" | tan => "tan"
  | asin => "asin" | acos => "acos" | atan => "atan"
  | cosec => "cosec" | sec => "sec" | cot => "cot"
  | acosec => "acosec" | asec => "asec" | acot => "acot"
  | sinh => "sinh" | cosh => "cosh" | tanh => "tanh"
  | asinh => "asinh" | acosh => "acosh" | atanh => "atanh"
  | exp => "exp" | ln => "ln" | log => "log" | log2 => "log2"
  | sqrt => "sqrt" | abs => "abs" | ceil => "ceil" | floor => "floor"
  | factorial => "factorial"

/-- The operation of a name. -/
def ofName? (name : String) : Option Operation :=
  all.find? fun op => op.name == name

/-- The result of an operation in an angle mode. -/
def apply (op : Operation) (mode : AngleMode) (x : Float) : Float :=
  match op with
  | sin => Float.sin (mode.toRadians x)
  | cos => Float.cos (mode.toRadians x)
  | tan => Float.tan (mode.toRadians x)
  | asin => mode.fromRadians (Float.asin x)
  | acos => mode.fromRadians (Float.acos x)
  | atan => mode.fromRadians (Float.atan x)
  | cosec => 1 / Float.sin (mode.toRadians x)
  | sec => 1 / Float.cos (mode.toRadians x)
  | cot => 1 / Float.tan (mode.toRadians x)
  | acosec => mode.fromRadians (Float.asin (1 / x))
  | asec => mode.fromRadians (Float.acos (1 / x))
  | acot => mode.fromRadians (Float.atan (1 / x))
  | sinh => Float.sinh x
  | cosh => Float.cosh x
  | tanh => Float.tanh x
  | asinh => Float.asinh x
  | acosh => Float.acosh x
  | atanh => Float.atanh x
  | exp => Float.exp x
  | ln => Float.log x
  | log => Float.log10 x
  | log2 => Float.log2 x
  | sqrt => Float.sqrt x
  | abs => Float.abs x
  | ceil => Float.ceil x
  | floor => Float.floor x
  | factorial => Reckoner.factorial x

end Operation

/-- What a function may be: an operation is one, and of each it is said what it makes of a number in
an angle mode. -/
class Callable (φ : Type) where
  ofOperation : Operation → φ
  call : φ → AngleMode → Float → Float
  call_ofOperation (op : Operation) : call (ofOperation op) = op.apply

/-- Nothing but the operations. -/
instance : Callable Operation := ⟨id, Operation.apply, fun _ => rfl⟩

/-- Whatever makes a number of a number. -/
instance : Callable (AngleMode → Float → Float) := ⟨Operation.apply, id, fun _ => rfl⟩

end Reckoner
