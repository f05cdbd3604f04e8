import Reckoner.AngleMode
import Reckoner.CommandLine.Use
import Reckoner.Number.Whole

/-!
# Settings

What the flags of a command line choose. A flag that is repeated chooses anew. Expressions on the
command line and a prompt exclude each other, and so do two different tasks. The angle mode that no
flag chooses is read from a text outside the command line, which is not looked at otherwise.
-/

namespace Reckoner.CommandLine

/-- What flags choose. -/
structure Settings where
  verbose : Bool := false
  angleMode : Option AngleMode := none
  precision : Option Int := none
  convert : Option (String × String) := none
  expressions : Option (List String) := none
  prompt : Option String := none
  task : Option Task := none
  deriving DecidableEq, Repr

/-- What a command line asks for. -/
structure Command where
  settings : Settings
  angleMode : AngleMode
  deriving DecidableEq, Repr

/-- Why there is nothing to carry out: help is asked for, or the words make no sense. -/
inductive Stop where
  | help
  | usage (e : UsageError)
  deriving DecidableEq, Repr

/-- The angle mode that stands behind a flag, or outside the command line in place of it. -/
def angleModeOf (text : String) : Except Stop AngleMode :=
  (AngleMode.parse text).mapError fun e => .usage (.unknownAngleMode e.text)

namespace Settings

/-- The flag that has been used before and that `f` may not be used with. -/
def rival? (s : Settings) : Flag → Option Flag
  | .expression => if s.prompt.isSome then some .prompt else none
  | .prompt => if s.expressions.isSome then some .expression else none
  | .task t => (s.task.filter (· != t)).map .task
  | _ => none

/-- The settings, if nothing rivals a flag. -/
def unrivalled (s : Settings) (f : Flag) : Except Stop Settings :=
  match s.rival? f with
  | none => .ok s
  | some other => .error (.usage (.rivals f other))

/-- The settings after the use of a flag. -/
def after (s : Settings) : Use → Except Stop Settings
  | .help => .error .help
  | .verbose => .ok { s with verbose := true }
  | .angleMode text => do
    return { s with angleMode := some (← angleModeOf text) }
  | .precision text =>
    match Number.ofWhole? text with
    | some k => .ok { s with precision := some k }
    | none => .error (.usage (.invalidPrecision text))
  | .convert source target => .ok { s with convert := some (source, target) }
  | .expression texts => do
    return { ← s.unrivalled .expression with expressions := some texts }
  | .prompt text => do
    return { ← s.unrivalled .prompt with prompt := some text }
  | .task t => do
    return { ← s.unrivalled (.task t) with task := some t }

/-- The settings after a piece of the command line. -/
def afterItem (s : Settings) : Item → Except Stop Settings
  | .use u => s.after u
  | .stray _ => .ok s
  | .misuse e => .error (.usage e)

/-- The command of some settings. Its angle mode is the one that `fallback` names if no flag chose
one. -/
def command (s : Settings) (fallback : String) : Except Stop Command :=
  match s.angleMode with
  | some mode => .ok ⟨s, mode⟩
  | none => do
    return ⟨s, ← angleModeOf fallback⟩

end Settings

/-- The words that no flag takes. -/
def strays (items : List Item) : List String :=
  items.filterMap fun
    | .stray text => some text
    | _ => none

/-- The angle mode of those who choose none. -/
def defaultAngleMode : String := "degrees"

/-- Reads a command line. The angle mode that the surroundings name, if they do, is that of a user
who chooses none. Words that no flag takes are complained of last. -/
def Command.read (surroundings : Option String) (texts : List String) : Except Stop Command := do
  let words ← (Word.ofTexts texts).mapError .usage
  let items := Item.ofWords words
  let settings ← items.foldlM Settings.afterItem {}
  let command ← settings.command (surroundings.getD defaultAngleMode)
  match strays items with
  | [] => return command
  | texts => throw (.usage (.strayWords texts))

end Reckoner.CommandLine
