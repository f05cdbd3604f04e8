import Reckoner.Text.CodeRanges

/-!
# White space

The twenty-five characters with the White_Space property, and the four separators U+001C to U+001F.
-/

namespace Reckoner.Text

/-- The ranges of white space. -/
def whiteSpace : CodeRanges :=
  [(0x09, 0x0d), (0x1c, 0x20), (0x85, 0x85), (0xa0, 0xa0), (0x1680, 0x1680), (0x2000, 0x200a),
   (0x2028, 0x2029), (0x202f, 0x202f), (0x205f, 0x205f), (0x3000, 0x3000)]

/-- Whether `c` is white space. -/
def isBlank (c : Char) : Bool :=
  whiteSpace.holds c.toNat

/-- The text without the characters of one kind at its two ends. -/
def stripOf (kind : Char → Bool) (s : List Char) : List Char :=
  ((s.dropWhile kind).reverse.dropWhile kind).reverse

/-- The text without the white space at its two ends. -/
def strip (s : List Char) : List Char :=
  stripOf isBlank s

example : strip " \u00a0Long Ton\x1f\n".toList = "Long Ton".toList := by decide +kernel

end Reckoner.Text
