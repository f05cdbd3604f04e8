import Reckoner.Units.Way

/-!
# Volumes

The litre is the base. Imperial and US measures are two systems, each with its own fluid ounce for
a base.
-/

namespace Reckoner.Units
open MeasureUnit
variable {α : Type} [Scalar α]

def litre : MeasureUnit α where
  name := "Litre"
  dimension := .volume

/-- An imperial measure: litres divided by the first number, fluid ounces times the second. -/
def imperialMeasure (name : String) (perLitre fluidOunces : α) : MeasureUnit α :=
  inSystem name .volume .imperial [.div perLitre] [.mul perLitre] [.mul fluidOunces]
    [.div fluidOunces]

/-- A US measure: litres divided by the first number, fluid ounces times the second. -/
def usMeasure (name : String) (perLitre fluidOunces : α) : MeasureUnit α :=
  inSystem name .volume .us [.div perLitre] [.mul perLitre] [.mul fluidOunces] [.div fluidOunces]

def cubicInchesPerFluidOunce : α := 1.733871455

def cubicInch : MeasureUnit α :=
  inSystem "Cubic Inch" .volume .imperial [.div 61.02374409] [.mul 61.02374409]
    [.div cubicInchesPerFluidOunce] [.mul cubicInchesPerFluidOunce]

def volumes : List (MeasureUnit α) :=
  [litre,
   metric "Cubic Metre" .volume [.mul 1000.0] [.div 1000.0],
   metric "CC" .volume [.div 1000.0] [.mul 1000.0],
   metric "Cubic Kilometre" .volume [.mul 1e6, .mul 1e6] [.div (1e6 * 1e6)],
   prefixed "Kilo Litre" .volume .kilo,
   prefixed "Mega Litre" .volume .mega,
   prefixed "Giga Litre" .volume .giga,
   cubicInch,
   systemBase "Imp Fl Ounce" .volume .imperial [.div 35.19507973] [.mul 35.19507973],
   imperialMeasure "Imp Pint" 1.759753986 20.0,
   imperialMeasure "Imp Quart" 0.8798769932 40.0,
   imperialMeasure "Imp Gallon" 0.2199692483 160.0,
   systemBase "US Fl Ounce" .volume .us [.div 33.81402270] [.mul 33.81402270],
   usMeasure "US Pint" 2.113376419 16.0,
   usMeasure "US Quart" 1.056688209 32.0,
   usMeasure "US Gallon" 0.2641720524 128.0]

end Reckoner.Units
