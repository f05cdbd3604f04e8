import Reckoner.CommandLine.UsageError

/-!
# Reports

What a run of the command line writes, line by line, and how it ends.
-/

namespace Reckoner.CommandLine

/-- A line of a report: an answer, or a message about what went on. -/
inductive Line where
  | answer (text : String)
  | message (text : String)
  deriving DecidableEq, Repr

/-- How a run ends. -/
inductive Ending where
  | finished
  | helped
  | misused (e : UsageError)
  | refused
  | overflowed
  | interrupted
  deriving DecidableEq, Repr

/-- The code with which the program exits. -/
def Ending.exitCode : Ending → UInt32
  | finished | helped => 0
  | overflowed | interrupted => 1
  | misused _ | refused => 2

/-- What is said of a value whose rounding is too large for a number. -/
def overflowMessage : String := "rounded value too large to represent"

/-- What a run writes and how it ends. -/
structure Report where
  lines : List Line
  ending : Ending
  deriving DecidableEq, Repr

namespace Report

/-- Writes lines in front of a report. -/
def prepend (lines : List Line) (r : Report) : Report :=
  { r with lines := lines ++ r.lines }

/-- A text whose lines are those given. -/
def unlines (lines : List String) : String :=
  String.join (lines.map (· ++ "\n"))

/-- All answers as one text. -/
def answers (r : Report) : String :=
  unlines (r.lines.filterMap fun
    | .answer text => some text
    | .message _ => none)

/-- All messages as one text. -/
def messages (r : Report) : String :=
  unlines (r.lines.filterMap fun
    | .answer _ => none
    | .message text => some text)

end Report
end Reckoner.CommandLine
