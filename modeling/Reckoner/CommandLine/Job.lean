import Reckoner.Calculator
import Reckoner.CommandLine.Report
import Reckoner.Number.Places
import Reckoner.Units.Catalog

/-!
# Jobs

What is done with every expression of a run, one after the other: it is evaluated, its value
converted and rounded, or it is dumped as tokens and tree. An expression that makes no sense leaves
a message in place of an answer and does not keep the others from their turn.
-/

namespace Reckoner.CommandLine

/-- What becomes of the values of expressions. -/
structure Job where
  calculator : Calculator Operation
  units : Option (MeasureUnit Float × MeasureUnit Float) := none
  precision : Option Int := none
  verbose : Bool := false

/-- What becomes of one expression. -/
inductive Verdict where
  | value (x : Float)
  | invalid (e : ExpressionError Operation)
  | overflow
  deriving DecidableEq, Repr

/-- A line of the log, under the name of the part of the program that writes it. -/
def logged (part text : String) : Line :=
  .message ("DEBUG [kelpie." ++ part ++ "] " ++ text)

/-- Tokens in one line. -/
def shownTokens (ts : List (Token Operation)) : String :=
  " ".intercalate (ts.map (·.shown))

/-- The text of an expression that was given as a line. -/
def withoutNewlines (line : String) : String :=
  String.ofList (line.toList.reverse.dropWhile (· == '\n')).reverse

namespace Job

/-- A value in the unit that is asked for. -/
def converted (j : Job) (x : Float) : Float :=
  match j.units with
  | none => x
  | some (u, v) => u.convert v x

/-- A value with as many places as are asked for, or nothing if it becomes too large. -/
def rounded? (j : Job) (x : Float) : Option Float :=
  match j.precision with
  | none => some x
  | some k => Number.roundPlaces? x k

/-- What becomes of an expression. -/
def verdict (j : Job) (text : String) : Verdict :=
  match j.calculator.evaluate text with
  | .error e => .invalid e
  | .ok x =>
    match j.rounded? (j.converted x) with
    | some y => .value y
    | none => .overflow

/-- What is logged of the value of an expression. -/
def valueLog (j : Job) (text : String) (x : Float) : List Line :=
  logged "evaluator" (text ++ " = " ++ Number.written x ++ " (" ++ j.calculator.mode.title ++ ")") ::
    match j.units with
    | none => []
    | some (_, v) =>
      [logged "cli" ("converted to " ++ v.name ++ ": " ++ Number.written (j.converted x))]

/-- What is logged of the tokens of an expression, and of what comes of them. -/
def tokenLog (j : Job) (text : String) (ts : List (Token Operation)) : List Line :=
  logged "evaluator" ("tokens: " ++ shownTokens ts) ::
    match parse ts with
    | .error _ => []
    | .ok t =>
      logged "evaluator" ("ast: " ++ t.shown) :: j.valueLog text (t.eval j.calculator.mode)

/-- What is logged of an expression: nothing, unless it has tokens. -/
def log (j : Job) (text : String) : List Line :=
  if text.isEmpty then []
  else
    match j.calculator.tokens text with
    | .error _ => []
    | .ok ts => j.tokenLog text ts

/-- The lines for an expression of which some verdict is reached. -/
def lines (j : Job) (text : String) (v : Verdict) : List Line :=
  (if j.verbose then j.log text else []) ++
    match v with
    | .value x => [.answer (Number.written x)]
    | .invalid e => [.message e.message]
    | .overflow => []

/-- The report on expressions in turn. An overflow ends the run. -/
def report (j : Job) (ending : Ending) : List String → Report
  | [] => ⟨[], ending⟩
  | line :: rest =>
    let text := withoutNewlines line
    match j.verdict text with
    | .overflow => ⟨j.lines text .overflow, .overflowed⟩
    | v => (j.report ending rest).prepend (j.lines text v)

end Job

/-- The first line of a dump. -/
def dumpTitle : String := "<tokens>\t<ast>"

/-- The tokens and the tree of a text, which may be empty. -/
def dissect (c : Calculator Operation) (text : String) :
    Except (ExpressionError Operation) (List (Token Operation) × Tree Operation) := do
  let ts ← c.tokens text
  let t ← (parse ts).mapError .parse
  return (ts, t)

/-- The line for an expression in a dump. -/
def dumpLine (c : Calculator Operation) (line : String) : Line :=
  match dissect c (withoutNewlines line) with
  | .ok (ts, t) => .answer (shownTokens ts ++ "\t" ++ t.shown)
  | .error e => .message e.message

/-- A dump of expressions in turn. -/
def dump (c : Calculator Operation) (ending : Ending) (lines : List String) : Report :=
  ⟨.answer dumpTitle :: lines.map (dumpLine c), ending⟩

end Reckoner.CommandLine
