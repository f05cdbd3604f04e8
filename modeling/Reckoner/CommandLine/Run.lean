import Reckoner.CommandLine.Job
import Reckoner.CommandLine.Settings
import Reckoner.LexicalGrammar

/-!
# Runs of the command line

From the words of a command line and its surroundings to a report. Expressions are words of the
command line, or lines that are typed at a prompt or read; a run that lists things reads none.

Three things are left out. The texts of help and of usage are no part of a report, which only says
that help was asked for or what was misused. What a prompt draws, its history and its completions
are not there either: of a prompt only the lines that are typed matter (`Surroundings.typed`). And no
run ends because an expression is nested too deeply for a machine's stack.
-/

namespace Reckoner.CommandLine

/-- The lines of a text, each with its end. A carriage return, a newline or both together end a
line, and they are read as a newline; the last line need not be ended. -/
def linesOf : List Char → List (List Char)
  | [] => []
  | '\r' :: '\n' :: text => ['\n'] :: linesOf text
  | '\r' :: text => ['\n'] :: linesOf text
  | '\n' :: text => ['\n'] :: linesOf text
  | c :: text =>
    match linesOf text with
    | [] => [[c]]
    | line :: lines => (c :: line) :: lines

/-- The lines of an input. -/
def inputLines (input : String) : List String :=
  (linesOf input.toList).map String.ofList

example : inputLines "1\r\n\r2\n3" = ["1\n", "\n", "2\n", "3"] := by decide +kernel

/-- What surrounds a run: the angle mode that is set there, what can be read, whether there is a
terminal at both ends, what is typed at a prompt, which is the input unless someone sits there, and
whether who types it breaks off after that. -/
structure Surroundings where
  angleMode : Option String := none
  input : String := ""
  terminal : Bool := false
  typed : List String := inputLines input
  interrupts : Bool := false
  deriving DecidableEq, Repr

namespace Settings

/-- Whether expressions are asked for at a prompt: that is what a prompt is given for, unless it is
empty, and what a terminal is taken for. -/
def prompts (s : Settings) (around : Surroundings) : Bool :=
  s.expressions.isNone && (s.prompt.any (!·.isEmpty) || around.terminal)

/-- What a prompt shows. -/
def promptText (s : Settings) : String :=
  (s.prompt.filter (!·.isEmpty)).getD defaultPrompt

/-- The expressions of a run, as lines. -/
def texts (s : Settings) (around : Surroundings) : List String :=
  s.expressions.getD (if s.prompts around then around.typed else inputLines around.input)

/-- How a run ends that goes on to its last expression. -/
def lastEnding (s : Settings) (around : Surroundings) : Ending :=
  if s.prompts around && around.interrupts then .interrupted else .finished

end Settings

/-- The units that a user names, which must be of one dimension. -/
def unitsOf (names : Option (String × String)) :
    Except ConversionError (Option (MeasureUnit Float × MeasureUnit Float)) :=
  match names with
  | none => .ok none
  | some (source, target) => do
    let u ← catalog.find source none
    let v ← catalog.find target none
    if u.dimension = v.dimension then return some (u, v)
    else throw (.differentDimensions u.name u.dimension v.name v.dimension)

/-- The lines of a listing. -/
def unitLines (d : Dimension) : List String :=
  d.name ::
    (catalog d : List (MeasureUnit Float)).map fun u => "\t" ++ u.name ++ "\t" ++ u.system.name

/-- A listing. -/
def listing (lines : List String) : Report :=
  ⟨lines.map .answer, .finished⟩

namespace Command

/-- The calculator of a run. -/
def calculator (c : Command) : Calculator Operation :=
  .new c.angleMode .catalog

/-- What is done with the expressions of a run, unless the units are refused. -/
def job (c : Command) : Except ConversionError Job := do
  let units ← unitsOf c.settings.convert
  return ⟨c.calculator, units, c.settings.precision, c.settings.verbose⟩

/-- Evaluates the expressions of a run. -/
def evaluate (c : Command) (around : Surroundings) : Report :=
  match c.job with
  | .error e => ⟨[.message e.message], .refused⟩
  | .ok j => j.report (c.settings.lastEnding around) (c.settings.texts around)

/-- Carries out a command. -/
def run (c : Command) (around : Surroundings) : Report :=
  match c.settings.task with
  | none => c.evaluate around
  | some .dump => dump c.calculator (c.settings.lastEnding around) (c.settings.texts around)
  | some .functions => listing (c.calculator.registers.functions.map (·.name))
  | some .constants =>
    listing (c.calculator.registers.constants.map fun k => k.name ++ "\t" ++ Number.written k.value)
  | some .units => listing (Dimension.all.flatMap unitLines)
  | some .grammar => listing [c.calculator.lexicon.grammar]

end Command

/-- Runs a command line. -/
def run (around : Surroundings) (words : List String) : Report :=
  match Command.read around.angleMode words with
  | .error .help => ⟨[], .helped⟩
  | .error (.usage e) => ⟨[], .misused e⟩
  | .ok c => c.run around

end Reckoner.CommandLine
