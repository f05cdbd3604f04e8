import Reckoner.CommandLine.Run

/-!
# The program

Reads the command line, the environment and standard input, and writes the report. At a prompt every
line is answered before the next one is asked for.
-/

namespace Reckoner.CommandLine

/-- The environment variable that names the angle mode of a user who chooses none. -/
def angleModeVariable : String := "KELPIE_ANGLE_MODE"

/-- Writes the lines of a report, each to the stream it belongs to. -/
def writeLines (lines : List Line) : IO Unit :=
  lines.forM fun
    | .answer text => IO.println text
    | .message text => IO.eprintln text

/-- Writes a report. -/
def write (r : Report) : IO UInt32 := do
  writeLines r.lines
  match r.ending with
  | .helped => Flag.all.forM fun f => IO.println ("  " ++ f.shown)
  | .misused e => IO.eprintln ("error: " ++ e.message)
  | .overflowed => IO.eprintln overflowMessage
  | _ => pure ()
  return r.ending.exitCode

/-- Answers the lines that are typed at a prompt, until they or the answers end. -/
partial def converse (prompt : String) (answer : String → Report) : IO UInt32 := do
  let stdout ← IO.getStdout
  stdout.putStr prompt
  stdout.flush
  let line ← (← IO.getStdin).getLine
  if line.isEmpty then return 0
  let r := answer line
  match r.ending with
  | .finished =>
    writeLines r.lines
    converse prompt answer
  | _ => write r

/-- Carries out a command whose expressions are typed at a prompt. -/
def Command.converse (c : Command) (prompt : String) : IO UInt32 :=
  match c.settings.task, c.job with
  | none, .ok j => CommandLine.converse prompt fun line => j.report .finished [line]
  | some .dump, _ => do
    writeLines [.answer dumpTitle]
    CommandLine.converse prompt fun line => ⟨[dumpLine c.calculator line], .finished⟩
  | _, _ => write (c.run {})

/-- Everything that can be read. -/
partial def readAll (stream : IO.FS.Stream) (read : String) : IO String := do
  let line ← stream.getLine
  if line.isEmpty then return read else readAll stream (read ++ line)

/-- Whether a command takes its expressions from the input. -/
def Command.reads (c : Command) : Bool :=
  c.settings.expressions.isNone && c.settings.task.all (· == .dump)

end Reckoner.CommandLine

open Reckoner.CommandLine in
def main (words : List String) : IO UInt32 := do
  let angleMode ← IO.getEnv angleModeVariable
  match Command.read angleMode words with
  | .error _ => write (run { angleMode } words)
  | .ok c =>
    let stdin ← IO.getStdin
    let terminal := (← stdin.isTty) && (← (← IO.getStdout).isTty)
    if c.settings.prompts { terminal } then c.converse c.settings.promptText
    else if c.reads then write (c.run { input := ← readAll stdin "" })
    else write (c.run {})
