import Reckoner.Units.Way

/-!
# Masses and temperatures

The kilogram is the base of masses and the ounce that of imperial ones. Temperatures are based on
Celsius. Their scales have different zeros, so a difference of temperatures does not convert like a
temperature.
-/

namespace Reckoner.Units
open MeasureUnit
variable {α : Type} [Scalar α]

/-! ## Masses -/

def kilogram : MeasureUnit α where
  name := "Kilogram"
  dimension := .mass

def ouncesPerKilogram : α := 35.2739619495804

/-- An imperial mass of as many pounds, each of sixteen ounces. -/
def poundMultiple (name : String) (pounds : α) : MeasureUnit α :=
  inSystem name .mass .imperial
    [.mul pounds, .mul 16.0, .div ouncesPerKilogram]
    [.mul ouncesPerKilogram, .div (pounds * 16.0)]
    [.mul pounds, .mul 16.0] [.div (pounds * 16.0)]

def masses : List (MeasureUnit α) :=
  [kilogram,
   metric "Gram" .mass [Prefix.kilo.onto] [Prefix.kilo.off],
   metric "Milligram" .mass [Prefix.milli.off, Prefix.kilo.onto] [Prefix.kilo.off, Prefix.milli.onto],
   metric "Microgram" .mass [Prefix.micro.off, Prefix.kilo.onto] [Prefix.kilo.off, Prefix.micro.onto],
   prefixed "Ton (metric)" .mass .kilo,
   metric "Kiloton (metric)" .mass [Prefix.kilo.off, Prefix.kilo.off]
    [Prefix.kilo.onto, Prefix.kilo.onto],
   metric "Megaton (metric)" .mass [Prefix.mega.off, Prefix.kilo.off]
    [Prefix.kilo.onto, Prefix.mega.onto],
   metric "Gigaton (metric)" .mass [Prefix.giga.off, Prefix.kilo.off]
    [Prefix.kilo.onto, Prefix.giga.onto],
   systemBase "Ounce" .mass .imperial [.div ouncesPerKilogram] [.mul ouncesPerKilogram],
   inSystem "Pound" .mass .imperial [.mul 16.0, .div ouncesPerKilogram]
    [.mul ouncesPerKilogram, .div 16.0] [.mul 16.0] [.div 16.0],
   poundMultiple "Long Ton" 2240.0,
   poundMultiple "Short Ton" 2000.0]

/-! ## Temperatures -/

def temperatures : List (MeasureUnit α) :=
  [{ name := "Celsius", dimension := .temperature },
   metric "Kelvin" .temperature [.sub 273.15] [.add 273.15],
   systemBase "Fahrenheit" .temperature .imperial [.sub 32.0, .div 9.0, .mul 5.0]
    [.div 5.0, .mul 9.0, .add 32.0]]

end Reckoner.Units
