import Reckoner.Lexer
import Reckoner.Text.WhiteSpace

/-!
# The lexical grammar as text

The lexemes as one regular expression with a named group for each kind, the names of the lexicon as
alternatives in their order. In a name, characters with a meaning of their own and white space are
escaped, so the names can be read back from the text.
-/

namespace Reckoner

variable {φ : Type}

/-- The characters that stand for themselves only behind a backslash. -/
def patternChars : List Char :=
  "()[]{}?*+|^$\\.-#&~".toList

/-- Whether `c` is escaped in a pattern. -/
def isPatternChar (c : Char) : Bool :=
  patternChars.contains c || Text.isBlank c

/-- The pattern that matches one character only. -/
def escapeChar (c : Char) : List Char :=
  if isPatternChar c then ['\\', c] else [c]

/-- The pattern that matches one text only. -/
def escapePattern (s : List Char) : List Char :=
  s.flatMap escapeChar

namespace Lexicon

/-- The pattern of the names: ordered alternatives that must end there, or one that never matches. -/
def namePattern : List (List Char) → List Char
  | [] => "(?!)".toList
  | names =>
    "(?:".toList ++ ['|'].intercalate (names.map escapePattern) ++
      ")(?![\\p\x7bAlphabetic\x7d\\p\x7bN\x7d])".toList

/-- The lexical grammar. -/
def grammar (lexicon : Lexicon φ) : String :=
  "(?<number>[0-9.]+)|(?<operator>[" ++
    String.ofList (escapePattern Token.operatorChars) ++
    "])|(?<space>[\\x20\\n]+)|(?<name>" ++
    String.ofList (namePattern lexicon.names) ++ ")"

end Lexicon
end Reckoner
