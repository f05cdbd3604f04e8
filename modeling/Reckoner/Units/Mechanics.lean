import Reckoner.Units.Way

/-!
# Powers, torques, forces and energies

Their bases are the watt, the newton metre, the newton and the joule. Pound and ounce force bear
names apart from the masses, since units are told apart by name. Calories count as metric: they are
defined in joules, and energy has one imperial unit.
-/

namespace Reckoner.Units
open MeasureUnit
variable {α : Type} [Scalar α]

def powers : List (MeasureUnit α) :=
  [{ name := "Watt", dimension := .power },
   prefixed "Milliwatt" .power .milli,
   prefixed "Kilowatt" .power .kilo,
   prefixed "Megawatt" .power .mega,
   prefixed "Gigawatt" .power .giga,
   systemBase "Horsepower" .power .imperial [.mul 745.699872] [.div 745.699872]]

def torques : List (MeasureUnit α) :=
  [{ name := "Newton Metre", dimension := .torque },
   prefixed "Kilonewton Metre" .torque .kilo,
   prefixed "Meganewton Metre" .torque .mega,
   prefixed "Giganewton Metre" .torque .giga,
   systemBase "Foot Pound" .torque .imperial [.mul 1.3558179483314] [.div 1.3558179483314],
   inSystem "Inch Pound" .torque .imperial [.mul 0.1129848290276167] [.div 0.1129848290276167]
    [.div 12.0] [.mul 12.0]]

def forces : List (MeasureUnit α) :=
  [{ name := "Newton", dimension := .force },
   prefixed "Kilonewton" .force .kilo,
   prefixed "Meganewton" .force .mega,
   prefixed "Giganewton" .force .giga,
   systemBase "Pound Force" .force .imperial [.mul 4.4482216152605] [.div 4.4482216152605],
   inSystem "Ounce Force" .force .imperial [.mul 0.278013851] [.div 0.278013851]
    [.div 16.0] [.mul 16.0]]

def joulesPerCalorie : α := 4.184

def energies : List (MeasureUnit α) :=
  [{ name := "Joule", dimension := .energy },
   prefixed "Kilojoule" .energy .kilo,
   prefixed "Megajoule" .energy .mega,
   prefixed "Gigajoule" .energy .giga,
   metric "Calorie" .energy [.mul joulesPerCalorie] [.div joulesPerCalorie],
   metric "Kilocalorie" .energy [Prefix.kilo.off, .mul joulesPerCalorie]
    [.div joulesPerCalorie, Prefix.kilo.onto],
   metric "Kilowatt Hour" .energy [.mul 3.6e6] [.div 3.6e6],
   systemBase "BTU" .energy .imperial [.mul 1055.05585262] [.div 1055.05585262]]

end Reckoner.Units
