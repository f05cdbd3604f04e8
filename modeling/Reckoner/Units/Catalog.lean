import Reckoner.Units.Lengths
import Reckoner.Units.Volumes
import Reckoner.Units.Masses
import Reckoner.Units.Mechanics
import Reckoner.Text.WhiteSpace
import Reckoner.Text.LowerCase
import Reckoner.Text.Quoted

/-!
# Catalogs of units

A catalog lists the units of each dimension. Units are looked up by name: white space around the
sought text does not matter, nor does the case of letters on either side. A name must fit one unit
only among the dimensions that are searched.
-/

namespace Reckoner

/-- The units of each dimension. -/
abbrev Catalog (α : Type) := Dimension → List (MeasureUnit α)

/-- The units that are known. -/
def catalog {α : Type} [Scalar α] : Catalog α
  | .length => Units.lengths
  | .area => Units.areas
  | .mass => Units.masses
  | .volume => Units.volumes
  | .temperature => Units.temperatures
  | .power => Units.powers
  | .torque => Units.torques
  | .force => Units.forces
  | .energy => Units.energies

/-- Why a conversion is refused. -/
inductive ConversionError where
  | noSuchUnit (text : String)
  | ambiguousUnit (text : String) (dimensions : List Dimension)
  | differentDimensions (source : String) (sourceDimension : Dimension) (target : String)
      (targetDimension : Dimension)
  deriving DecidableEq, Repr

def ConversionError.message : ConversionError → String
  | noSuchUnit text => "No such unit " ++ Text.quoted text
  | ambiguousUnit text dimensions =>
    "Ambiguous unit " ++ Text.quoted text ++ ": " ++ ", ".intercalate (dimensions.map (·.name))
  | differentDimensions source sd target td =>
    "Can't convert " ++ source ++ " (" ++ sd.name ++ ") to " ++ target ++ " (" ++ td.name ++ ")"

namespace Catalog
variable {α : Type}

/-- The lower case name by which a unit is looked up. -/
def key (u : MeasureUnit α) : List Char :=
  Text.lower u.name.toList

/-- The lower case name that a text asks for. -/
def sought (text : String) : List Char :=
  Text.lower (Text.strip text.toList)

/-- The units of some dimensions that a text may mean. -/
def candidates (units : Catalog α) (dimensions : List Dimension) (text : String) :
    List (MeasureUnit α) :=
  dimensions.flatMap fun d => (units d).filter fun u => key u == sought text

/-- The unit that a text means, in one dimension or in all. -/
def find (units : Catalog α) (text : String) (dimension : Option Dimension) :
    Except ConversionError (MeasureUnit α) :=
  let dimensions := match dimension with
    | none => Dimension.all
    | some d => [d]
  match units.candidates dimensions text with
  | [] => .error (.noSuchUnit text)
  | [u] => .ok u
  | us => .error (.ambiguousUnit text (us.map (·.dimension)))

end Catalog
end Reckoner
