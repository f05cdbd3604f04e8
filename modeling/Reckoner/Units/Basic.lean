import Reckoner.Scalar

/-!
# Units of measure

A unit measures a dimension and belongs to a system. It is convertible through the base unit of its
dimension, and within its system through the base unit of the system there. Factors inside a system
are mostly whole numbers while those between systems are not, so two units of one system that is not
metric are converted through the base of the system, and all others through that of the dimension.
-/

namespace Reckoner

/-- A physical quantity. -/
inductive Dimension where
  | length
  | area
  | mass
  | volume
  | temperature
  | power
  | torque
  | force
  | energy
  deriving DecidableEq, Repr

namespace Dimension

/-- Every dimension, in the order in which they are listed and searched. -/
def all : List Dimension :=
  [length, area, mass, volume, temperature, power, torque, force, energy]

def name : Dimension → String
  | length => "Length"
  | area => "Area"
  | mass => "Mass"
  | volume => "Volume"
  | temperature => "Temperature"
  | power => "Power"
  | torque => "Torque"
  | force => "Force"
  | energy => "Energy"

theorem mem_all (d : Dimension) : d ∈ all := by
  cases d <;> decide

end Dimension

/-- A system of measurement. Only volumes have units of the US system. -/
inductive MeasureSystem where
  | metric
  | imperial
  | us
  deriving DecidableEq, Repr

namespace MeasureSystem

def all : List MeasureSystem := [metric, imperial, us]

def name : MeasureSystem → String
  | metric => "Metric"
  | imperial => "Imperial"
  | us => "US"

/-- Metric units always go through the base unit of their dimension. -/
def isDefault (s : MeasureSystem) : Bool :=
  s == metric

end MeasureSystem

/-- A unit of measure, with the ways to and from the two bases. A base itself has none. -/
structure MeasureUnit (α : Type) where
  name : String
  dimension : Dimension
  system : MeasureSystem := .metric
  toBase : Option (α → α) := none
  fromBase : Option (α → α) := none
  toSystemBase : Option (α → α) := none
  fromSystemBase : Option (α → α) := none

/-- Goes a way, or stays where there is none. -/
def follow {α : Type} (way : Option (α → α)) (x : α) : α :=
  match way with
  | some f => f x
  | none => x

/-- The way gone twice, as for the square of a unit. -/
def squared {α : Type} (way : Option (α → α)) : Option (α → α) :=
  way.map fun f x => f (f x)

namespace MeasureUnit
variable {α : Type}

/-- Whether the unit is the base of its dimension. -/
def isBase (u : MeasureUnit α) : Bool :=
  u.toBase.isNone && u.fromBase.isNone

/-- Whether the unit has a way to the base of its system. -/
def hasSystemBase (u : MeasureUnit α) : Bool :=
  u.toSystemBase.isSome

/-- Units are the same when their names are, whatever they measure. -/
def same (u v : MeasureUnit α) : Bool :=
  u.name == v.name

/-- A unit with what it measures. -/
def shown (u : MeasureUnit α) : String :=
  "Unit(" ++ u.name ++ ", " ++ u.dimension.name ++ ", " ++ u.system.name ++ ")"

/-- Whether values go from `u` to `v` through the base of their system. -/
def shareSystemBase (u v : MeasureUnit α) : Bool :=
  u.system == v.system && u.dimension == v.dimension && !u.system.isDefault

/-- The value in `v` of `x` in `u`. That the two measure one dimension is for the caller to see to. -/
def convert (u v : MeasureUnit α) (x : α) : α :=
  if u.same v then x
  else if u.shareSystemBase v then follow v.fromSystemBase (follow u.toSystemBase x)
  else follow v.fromBase (follow u.toBase x)

/-- Converts between units that may not have been chosen yet; until then the value is zero. -/
def convert? [Scalar α] (u v : Option (MeasureUnit α)) (x : α) : α :=
  match u, v with
  | some u, some v => u.convert v x
  | _, _ => 0.0

/-- The unit of the squares with sides of length unit `u`. -/
def squareOf (name : String) (u : MeasureUnit α) : MeasureUnit α where
  name := name
  dimension := .area
  system := u.system
  toBase := squared u.toBase
  fromBase := squared u.fromBase
  toSystemBase := squared u.toSystemBase
  fromSystemBase := squared u.fromSystemBase

end MeasureUnit

/-- A unit or a text, as one table can be keyed by both. -/
inductive UnitKey (α : Type) where
  | unit (u : MeasureUnit α)
  | text (text : String)

namespace UnitKey
variable {α : Type}

/-- What a key is known by: whether it is a unit, and its text. -/
def identity : UnitKey α → Bool × String
  | unit u => (true, u.name)
  | text t => (false, t)

/-- No unit is the same as a text, be it the unit's name. -/
instance : BEq (UnitKey α) := ⟨fun a b => a.identity == b.identity⟩

/-- A unit hashes as its name does. -/
instance : Hashable (UnitKey α) := ⟨fun a => hash a.identity.2⟩

theorem beq_iff {a b : UnitKey α} : (a == b) = true ↔ a.identity = b.identity := by
  show (a.identity == b.identity) = true ↔ _
  exact beq_iff_eq

theorem unit_beq_unit_iff {u v : MeasureUnit α} : (unit u == unit v) = true ↔ u.same v = true := by
  simp [beq_iff, identity, MeasureUnit.same]

theorem unit_beq_text (u : MeasureUnit α) (t : String) : (unit u == text t) = false := rfl

instance : EquivBEq (UnitKey α) where
  rfl := beq_iff.mpr rfl
  symm h := beq_iff.mpr (beq_iff.mp h).symm
  trans h h' := beq_iff.mpr ((beq_iff.mp h).trans (beq_iff.mp h'))

/-- So what a table holds under a unit is found by every unit of its name. -/
instance : LawfulHashable (UnitKey α) where
  hash_eq _ _ h := congrArg (fun i => hash i.2) (beq_iff.mp h)

end UnitKey
end Reckoner
