import Reckoner.CommandLine.UsageError
import Reckoner.Text.DecimalDigit

/-!
# Words of a command line

What each word is, as far as its looks tell. Two hyphens and the beginning of a name are a flag, and
an equals sign attaches a text to it. So are one hyphen and a letter, to which anything is attached
that follows; an equals sign directly behind the letter is not part of it. Other words with a hyphen
in front are taken for mistaken flags unless they look like a negative number or hold a space. A word
of two hyphens alone makes all words behind it arguments.
-/

namespace Reckoner.CommandLine

/-- What a word looks like. -/
inductive Look where
  | argument
  | separator
  | named (f : Flag) (attached : Option (List Char))
  | lettered (f : Flag) (attached : Option (List Char))
  | unknownFlag
  deriving DecidableEq, Repr

/-- A word and its looks. -/
structure Word where
  text : String
  look : Look
  deriving DecidableEq, Repr

/-- Decimal digits, without or with a point that digits follow. -/
def isUnsignedNumber (text : List Char) : Bool :=
  let whole := text.takeWhile Text.isDecimalDigit
  match text.dropWhile Text.isDecimalDigit with
  | [] => !whole.isEmpty
  | c :: places => c == '.' && !places.isEmpty && places.all Text.isDecimalDigit

/-- Whether a word is a negative number. A newline at its end is ignored. -/
def isNegativeNumber : List Char → Bool
  | '-' :: text => isUnsignedNumber (if text.getLast? = some '\n' then text.dropLast else text)
  | _ => false

namespace Look

/-- The looks of a word with a hyphen in front that stands for no flag. -/
def ofOther (word : List Char) : Look :=
  if isNegativeNumber word || word.contains ' ' then argument else unknownFlag

/-- The text that an equals sign attaches to a name. -/
def attachedToName (name : List Char) : Option (List Char) :=
  match name.dropWhile (· != '=') with
  | [] => none
  | _ :: text => some text

/-- The text that is attached to a letter by what follows it. -/
def attachedToLetter : List Char → Option (List Char)
  | [] => none
  | '=' :: text => some text
  | text => some text

/-- The looks of a word. -/
def ofChars (word : List Char) : Except UsageError Look :=
  match word with
  | '-' :: '-' :: name =>
    match Flag.beginning (name.takeWhile (· != '=')) with
    | [] => .ok (ofOther word)
    | [f] => .ok (named f (attachedToName name))
    | fs => .error (.ambiguousFlag (String.ofList word) fs)
  | '-' :: letter :: rest =>
    match Flag.ofLetter? letter with
    | some f => .ok (lettered f (attachedToLetter rest))
    | none => .ok (ofOther word)
  | _ => .ok argument

end Look

namespace Word

/-- Words behind a separator. -/
def arguments (texts : List String) : List Word :=
  texts.map fun text => ⟨text, .argument⟩

/-- The words of a command line. -/
def ofTexts : List String → Except UsageError (List Word)
  | [] => .ok []
  | text :: texts =>
    if text = "--" then .ok (⟨text, .separator⟩ :: arguments texts)
    else do
      let look ← Look.ofChars text.toList
      return ⟨text, look⟩ :: (← ofTexts texts)

end Word

example : (Look.ofChars "--prec=2".toList).toOption =
    some (.named .precision (some ['2'])) := by
  decide +kernel
example : (Look.ofChars "-1.5".toList).toOption = some .argument ∧
    (Look.ofChars "-x".toList).toOption = some .unknownFlag := by
  decide +kernel

end Reckoner.CommandLine
