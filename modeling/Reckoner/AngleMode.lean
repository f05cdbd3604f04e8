import Reckoner.Text.WhiteSpace
import Reckoner.Text.LowerCase
import Reckoner.Text.Quoted

/-!
# Angle modes

The measure in which trigonometric functions take and give angles, and how a mode is named in text.
-/

namespace Reckoner

/-- The ratio of a circle's circumference to its diameter. -/
def pi : Float := 3.141592653589793

/-- Text that names no angle mode. -/
structure UnknownAngleMode where
  text : String
  deriving DecidableEq, Repr

def UnknownAngleMode.message (e : UnknownAngleMode) : String :=
  "Unknown angle mode " ++ Text.quoted e.text

/-- The measure of angles. A full turn is 360 degrees, 2π radians or 400 gradians. -/
inductive AngleMode where
  | degrees
  | radians
  | gradians
  deriving DecidableEq, Repr, Inhabited

namespace AngleMode

def all : List AngleMode := [degrees, radians, gradians]

/-- The name of a mode. -/
def name : AngleMode → String
  | degrees => "degrees"
  | radians => "radians"
  | gradians => "gradians"

/-- A mode as it is shown. -/
def title : AngleMode → String
  | degrees => "Degrees"
  | radians => "Radians"
  | gradians => "Grads"

/-- The words whose beginnings stand for a mode. -/
def words (mode : AngleMode) : List (List Char) :=
  [mode.name.toList, Text.lower mode.title.toList]

/-- The fewest letters that stand for a mode. -/
def fewestLetters : Nat := 3

/-- Whether `key` is the beginning of a word for the mode. -/
def answersTo (mode : AngleMode) (key : List Char) : Bool :=
  mode.words.any key.isPrefixOf

/-- The mode that a text names: white space around it and the case of its letters are ignored, and
three letters are enough. -/
def parse (text : String) : Except UnknownAngleMode AngleMode :=
  let key := Text.lower (Text.strip text.toList)
  if key.length < fewestLetters then .error ⟨text⟩
  else
    match all.find? fun mode => mode.answersTo key with
    | some mode => .ok mode
    | none => .error ⟨text⟩

/-- An angle of this mode in radians. -/
def toRadians (mode : AngleMode) (x : Float) : Float :=
  match mode with
  | degrees => x * (pi / 180)
  | radians => x
  | gradians => x * 0.9 * (pi / 180)

/-- An angle in radians in this mode. -/
def fromRadians (mode : AngleMode) (x : Float) : Float :=
  match mode with
  | degrees => x * (180 / pi)
  | radians => x
  | gradians => x * (180 / pi) / 0.9

example : (parse " GRAD\n").toOption = some gradians := by decide +kernel

end AngleMode
end Reckoner
