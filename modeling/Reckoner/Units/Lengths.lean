import Reckoner.Units.Way

/-!
# Lengths and areas

The metre is the base of lengths and the yard that of imperial ones. Most areas are squares of
lengths and convert by going the way of the length twice, so the square metre and the square yard
are their bases.
-/

namespace Reckoner.Units
open MeasureUnit
variable {α : Type} [Scalar α]

/-! ## Lengths -/

def metre : MeasureUnit α where
  name := "Metre"
  dimension := .length

def centimetre : MeasureUnit α :=
  metric "Centimetre" .length [.div 100.0] [.mul 100.0]

def millimetre : MeasureUnit α :=
  prefixed "Millimetre" .length .milli

def micrometre : MeasureUnit α :=
  prefixed "Micrometre" .length .micro

def kilometre : MeasureUnit α :=
  prefixed "Kilometre" .length .kilo

def metresPerLightyear : α := 9460730472580800.0

def lightyear : MeasureUnit α :=
  metric "Lightyear" .length [.mul metresPerLightyear] [.div metresPerLightyear]

def metresPerParsec : α := 30856775814913670.0

def parsec : MeasureUnit α :=
  metric "Parsec" .length [.mul metresPerParsec] [.div metresPerParsec]

def yardsPerMetre : α := 1.093613

def yard : MeasureUnit α :=
  systemBase "Yard" .length .imperial [.div yardsPerMetre] [.mul yardsPerMetre]

def foot : MeasureUnit α :=
  inSystem "Foot" .length .imperial
    [.div (yardsPerMetre * 3.0)] [.mul (yardsPerMetre * 3.0)] [.div 3.0] [.mul 3.0]

def inch : MeasureUnit α :=
  inSystem "Inch" .length .imperial
    [.div (yardsPerMetre * 36.0)] [.mul (yardsPerMetre * 36.0)] [.div 36.0] [.mul 36.0]

def mile : MeasureUnit α :=
  inSystem "Mile" .length .imperial
    [.div (yardsPerMetre / 1760.0)] [.mul (yardsPerMetre / 1760.0)] [.mul 1760.0] [.div 1760.0]

def yardsPerNauticalMile : α := 2025.373

def nauticalMile : MeasureUnit α :=
  inSystem "Nautical Mile" .length .imperial
    [.div (yardsPerMetre / yardsPerNauticalMile)] [.mul (yardsPerMetre / yardsPerNauticalMile)]
    [.mul yardsPerNauticalMile] [.div yardsPerNauticalMile]

def lengths : List (MeasureUnit α) :=
  [metre, centimetre, millimetre, micrometre, kilometre, lightyear, parsec, yard, foot, inch, mile,
   nauticalMile]

/-! ## Areas -/

def hectare : MeasureUnit α :=
  metric "Hectare" .area [.mul 10000.0] [.div 10000.0]

def squareMetresPerAcre : α := 4046.856422

def acre : MeasureUnit α :=
  inSystem "Acre" .area .imperial [.mul squareMetresPerAcre] [.div squareMetresPerAcre]
    [.mul 4840.0] [.div 4840.0]

def areas : List (MeasureUnit α) :=
  [squareOf "Sq Metre" metre, squareOf "Sq Centimetre" centimetre,
   squareOf "Sq Millimetre" millimetre, squareOf "Sq Micrometre" micrometre, hectare,
   squareOf "Sq Kilometre" kilometre, squareOf "Sq Yard" yard, squareOf "Sq Foot" foot,
   squareOf "Sq Inch" inch, acre, squareOf "Sq Mile" mile,
   squareOf "Sq Nautical Mile" nauticalMile]

end Reckoner.Units
