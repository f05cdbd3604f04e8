import Reckoner.Operation

/-!
# Registers

The names an expression may use: functions and constants. What a function is, besides its name, only
evaluation needs to know (`Callable`); all that reads expressions leaves it open as a type `φ`.
-/

namespace Reckoner

variable {φ : Type}

/-- A named function. The name may be any text, whatever the function is. -/
structure UnaryFunction (φ : Type) where
  name : String
  function : φ
  deriving DecidableEq, Repr

/-- A named number. -/
structure Constant where
  name : String
  value : Float
  deriving DecidableEq, Repr

/-- How a function is shown in a syntax tree or a register. -/
def UnaryFunction.shown (f : UnaryFunction φ) : String :=
  "Function(" ++ f.name ++ ")"

/-- The value of a function in an angle mode. -/
def UnaryFunction.apply [Callable φ] (f : UnaryFunction φ) (mode : AngleMode) (x : Float) : Float :=
  Callable.call f.function mode x

/-- Every operation under its own name. -/
def allFunctions [Callable φ] : List (UnaryFunction φ) :=
  Operation.all.map fun op => ⟨op.name, Callable.ofOperation op⟩

/-- The circle constant, Euler's number, the golden ratio, the speed of light in m/s, Planck's
constant in J s and the gravitational constant in m³/(kg s²). -/
def allConstants : List Constant :=
  [⟨"π", pi⟩, ⟨"e", 2.718281828459045⟩, ⟨"Φ", 1.618033988749895⟩, ⟨"C", 299792458⟩,
   ⟨"ℎ", 6.626e-34⟩, ⟨"G", 6.674e-11⟩]

/-- The functions and constants that expressions are read with. -/
structure Registers (φ : Type) where
  functions : List (UnaryFunction φ)
  constants : List Constant
  deriving DecidableEq, Repr

namespace Registers

/-- The registers of those who choose none. -/
def catalog [Callable φ] : Registers φ :=
  ⟨allFunctions, allConstants⟩

/-- The names of functions and constants, each as often as it is declared. -/
def names (r : Registers φ) : List String :=
  r.functions.map (·.name) ++ r.constants.map (·.name)

/-- The function of a name: of several declared, the last. -/
def function? (r : Registers φ) (name : String) : Option (UnaryFunction φ) :=
  r.functions.reverse.find? fun f => f.name == name

/-- The constant of a name: of several declared, the last. -/
def constant? (r : Registers φ) (name : String) : Option Constant :=
  r.constants.reverse.find? fun c => c.name == name

end Registers
end Reckoner
