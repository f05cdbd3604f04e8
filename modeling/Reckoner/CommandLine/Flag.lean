/-!
# Flags

The flags of the command line, each with a letter and a name.
-/

namespace Reckoner.CommandLine

/-- What can be asked for in place of the values of expressions. -/
inductive Task where
  | functions
  | constants
  | units
  | grammar
  | dump
  deriving DecidableEq, Repr

/-- A flag. -/
inductive Flag where
  | help
  | verbose
  | angleMode
  | precision
  | convert
  | expression
  | prompt
  | task (t : Task)
  deriving DecidableEq, Repr

namespace Flag

/-- Every flag, in the order in which they are listed. -/
def all : List Flag :=
  [help, verbose, angleMode, precision, convert, expression, prompt, task .functions,
   task .constants, task .units, task .grammar, task .dump]

/-- The letter of a flag, which is given behind one hyphen. -/
def letter : Flag → Char
  | help => 'h'
  | verbose => 'v'
  | angleMode => 'a'
  | precision => 'k'
  | convert => 'c'
  | expression => 'e'
  | prompt => 'p'
  | task .functions => 'F'
  | task .constants => 'C'
  | task .units => 'U'
  | task .grammar => 'G'
  | task .dump => 'D'

/-- The name of a flag, which is given behind two hyphens. -/
def name : Flag → String
  | help => "help"
  | verbose => "verbose"
  | angleMode => "angle-mode"
  | precision => "precision"
  | convert => "convert"
  | expression => "expression"
  | prompt => "prompt"
  | task .functions => "functions"
  | task .constants => "constants"
  | task .units => "units"
  | task .grammar => "raw-grammar"
  | task .dump => "dump"

/-- A flag as messages refer to it. -/
def shown (f : Flag) : String :=
  "-" ++ f.letter.toString ++ "/--" ++ f.name

/-- The flag of a letter. -/
def ofLetter? (c : Char) : Option Flag :=
  all.find? fun f => f.letter == c

/-- The flags whose names begin in some way. -/
def beginning (stem : List Char) : List Flag :=
  all.filter fun f => stem.isPrefixOf f.name.toList

/-- No name is the beginning of another, so a whole name means its flag only. -/
example : ∀ f ∈ all, beginning f.name.toList = [f] := by decide +kernel

end Flag
end Reckoner.CommandLine
