import Reckoner.Text.Printable

/-!
# Quoted text

How a text the user gave is shown in a message: between quotes, with every character that would not
be seen written as an escape. Apostrophes quote a text unless it holds one and no quotation mark.
-/

namespace Reckoner.Text

/-- The quote written around `s`. -/
def quoteOf (s : List Char) : Char :=
  if s.contains '\'' && !s.contains '"' then '"' else '\''

/-- `n` in lower case hexadecimal, with at least `width` digits. -/
def hexadecimal (width n : Nat) : List Char :=
  let digits := Nat.toDigits 16 n
  List.replicate (width - digits.length) '0' ++ digits

/-- The shortest escape of the two, four and eight digit ones that can hold `n`. -/
def escapeCode (n : Nat) : List Char :=
  if n < 0x100 then '\\' :: 'x' :: hexadecimal 2 n
  else if n < 0x10000 then '\\' :: 'u' :: hexadecimal 4 n
  else '\\' :: 'U' :: hexadecimal 8 n

/-- `c` as it stands between two `quote`s. -/
def quoteChar (quote c : Char) : List Char :=
  if c = quote ∨ c = '\\' then ['\\', c]
  else if c = '\t' then ['\\', 't']
  else if c = '\n' then ['\\', 'n']
  else if c = '\r' then ['\\', 'r']
  else if isPrintable c then [c]
  else escapeCode c.toNat

/-- `s` between quotes. -/
def quoted (s : String) : String :=
  let text := s.toList
  let quote := quoteOf text
  String.ofList (quote :: text.flatMap (quoteChar quote) ++ [quote])

example : quoted "it's\n\u00ad" = "\"it's\\n\\xad\"" := by decide +kernel

end Reckoner.Text
