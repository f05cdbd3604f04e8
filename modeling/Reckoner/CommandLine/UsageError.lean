import Reckoner.CommandLine.Flag
import Reckoner.Text.Quoted

/-!
# Usage errors

Why the words of a command line make no sense.
-/

namespace Reckoner.CommandLine

/-- Why the words of a command line make no sense. -/
inductive UsageError where
  | ambiguousFlag (word : String) (flags : List Flag)
  | missingArguments (f : Flag)
  | superfluousArgument (f : Flag) (text : String)
  | unknownAngleMode (text : String)
  | invalidPrecision (text : String)
  | rivals (f other : Flag)
  | strayWords (words : List String)
  deriving DecidableEq, Repr

namespace UsageError

/-- A message about a flag. -/
def about (f : Flag) (text : String) : String :=
  "argument " ++ f.shown ++ ": " ++ text

/-- How many arguments a flag that needs some is given. -/
def neededArguments : Flag → String
  | .convert => "2 arguments"
  | _ => "one argument"

def message : UsageError → String
  | ambiguousFlag word flags =>
    "ambiguous option: " ++ word ++ " could match " ++
      ", ".intercalate (flags.map fun f => "--" ++ f.name)
  | missingArguments f => about f ("expected " ++ neededArguments f)
  | superfluousArgument f text => about f ("ignored explicit argument " ++ Text.quoted text)
  | unknownAngleMode text => about .angleMode ("invalid parse value: " ++ Text.quoted text)
  | invalidPrecision text => about .precision ("invalid int value: " ++ Text.quoted text)
  | rivals f other => about f ("not allowed with argument " ++ other.shown)
  | strayWords words => "unrecognized arguments: " ++ " ".intercalate words

end UsageError
end Reckoner.CommandLine
