import Reckoner.Units.Basic

/-!
# Ways between units

The way from a unit to another as the operations to carry out on a value, in their order, and the
metric prefixes, which are ways too.
-/

namespace Reckoner

/-- One operation on a value. -/
inductive Step (α : Type) where
  | add (c : α)
  | sub (c : α)
  | mul (c : α)
  | div (c : α)
  deriving DecidableEq, Repr

/-- The value after a step. -/
def Step.apply {α : Type} [Scalar α] : Step α → α → α
  | add c, x => x + c
  | sub c, x => x - c
  | mul c, x => x * c
  | div c, x => x / c

/-- The value after steps in turn. -/
def walk {α : Type} [Scalar α] (steps : List (Step α)) (x : α) : α :=
  steps.foldl (fun x s => s.apply x) x

/-- The way that some steps lead. -/
def via {α : Type} [Scalar α] (steps : List (Step α)) : Option (α → α) :=
  some (walk steps)

/-- A metric prefix. -/
inductive Prefix where
  | milli
  | micro
  | kilo
  | mega
  | giga
  deriving DecidableEq, Repr

namespace Prefix

def all : List Prefix := [milli, micro, kilo, mega, giga]

def name : Prefix → String
  | milli => "milli"
  | micro => "micro"
  | kilo => "kilo"
  | mega => "mega"
  | giga => "giga"

/-- The step from a value to the same value counted in units with the prefix: 2500 g is 2.5 kg. -/
def onto {α : Type} [Scalar α] : Prefix → Step α
  | milli => .mul 1e3
  | micro => .mul 1e6
  | kilo => .div 1e3
  | mega => .div 1e6
  | giga => .div 1e9

/-- The step back. -/
def off {α : Type} [Scalar α] : Prefix → Step α
  | milli => .div 1e3
  | micro => .div 1e6
  | kilo => .mul 1e3
  | mega => .mul 1e6
  | giga => .mul 1e9

end Prefix

namespace MeasureUnit
variable {α : Type} [Scalar α]

/-- A metric unit with the steps to the base of its dimension and back. -/
def metric (name : String) (dimension : Dimension) (there back : List (Step α)) :
    MeasureUnit α where
  name := name
  dimension := dimension
  toBase := via there
  fromBase := via back

/-- The base unit of a dimension with a metric prefix. -/
def prefixed (name : String) (dimension : Dimension) (p : Prefix) : MeasureUnit α :=
  metric name dimension [p.off] [p.onto]

/-- The base unit of a system, with the steps to the base of its dimension and back. -/
def systemBase (name : String) (dimension : Dimension) (system : MeasureSystem)
    (there back : List (Step α)) : MeasureUnit α where
  name := name
  dimension := dimension
  system := system
  toBase := via there
  fromBase := via back

/-- A unit with the steps to the base of its dimension and back, and the same for its system. -/
def inSystem (name : String) (dimension : Dimension) (system : MeasureSystem)
    (there back thereInSystem backInSystem : List (Step α)) : MeasureUnit α where
  name := name
  dimension := dimension
  system := system
  toBase := via there
  fromBase := via back
  toSystemBase := via thereInSystem
  fromSystemBase := via backInSystem

end MeasureUnit
end Reckoner
