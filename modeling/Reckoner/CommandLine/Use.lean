import Reckoner.CommandLine.Word

/-!
# Uses of flags

Words are put together to flags with their arguments. What is attached to the letter of a flag is its
argument, or, if it takes none, the letters of further flags up to one that takes the rest. Reading
stops at the first flag whose arguments do not fit.

Releases of these rules differ, and all are as in release 3.11.8 here. In a word of several letters
one that is no flag's is, with what follows, an argument that the flag before it does not take, and
an equals sign behind any but the first letter is part of the text that is attached; since 3.11.9
the former is a mistaken flag and the latter is skipped. Two hyphens that are attached to a flag are
its argument; before 3.11.8 they were dropped, and the flag had none.
-/

namespace Reckoner.CommandLine

/-- A flag with its arguments. -/
inductive Use where
  | help
  | verbose
  | angleMode (text : String)
  | precision (text : String)
  | convert (source target : String)
  | expression (texts : List String)
  | prompt (text : String)
  | task (t : Task)
  deriving DecidableEq, Repr

/-- What a prompt shows unless the user says otherwise. -/
def defaultPrompt : String := "> "

namespace Flag

/-- The use of a flag without arguments. -/
def alone? : Flag → Option Use
  | help => some .help
  | verbose => some .verbose
  | task t => some (.task t)
  | _ => none

/-- The use of a flag with one argument. -/
def withOne? : Flag → String → Option Use
  | angleMode, text => some (.angleMode text)
  | precision, text => some (.precision text)
  | expression, text => some (.expression [text])
  | prompt, text => some (.prompt text)
  | _, _ => none

/-- The use of a flag with the argument attached to it, two hyphens being one like any other. -/
def withAttached (f : Flag) (text : String) : Except UsageError Use :=
  match f.alone?, f.withOne? text with
  | some _, _ => .error (.superfluousArgument f text)
  | none, some use => .ok use
  | none, none => .error (.missingArguments f)

end Flag

/-- Whether a word may be among the expressions behind the flag for them. -/
def Word.isNoSeparator (w : Word) : Bool :=
  w.look != .separator

/-- The use of a flag with the arguments in the words behind it, and the words left. -/
def Flag.withFollowing (f : Flag) (ws : List Word) : Except UsageError (Use × List Word) :=
  match f, ws with
  | help, ws => .ok (.help, ws)
  | verbose, ws => .ok (.verbose, ws)
  | task t, ws => .ok (.task t, ws)
  | angleMode, ⟨text, .argument⟩ :: ws => .ok (.angleMode text, ws)
  | precision, ⟨text, .argument⟩ :: ws => .ok (.precision text, ws)
  | convert, ⟨source, .argument⟩ :: ⟨target, .argument⟩ :: ws => .ok (.convert source target, ws)
  | expression, ws =>
    .ok (.expression ((ws.takeWhile Word.isNoSeparator).map (·.text)),
      ws.dropWhile Word.isNoSeparator)
  | prompt, ⟨text, .argument⟩ :: ws => .ok (.prompt text, ws)
  | prompt, ws => .ok (.prompt defaultPrompt, ws)
  | f, _ => .error (.missingArguments f)

theorem Flag.length_le_of_withFollowing {f : Flag} {ws rest : List Word} {use : Use}
    (h : f.withFollowing ws = .ok (use, rest)) : rest.length ≤ ws.length := by
  have := (List.dropWhile_suffix Word.isNoSeparator (l := ws)).length_le
  unfold withFollowing at h
  split at h <;> cases h <;> grind

/-- What a command line says, piece by piece: a use of a flag, a word that no flag takes, or a flag
whose arguments do not fit. -/
inductive Item where
  | use (u : Use)
  | stray (text : String)
  | misuse (e : UsageError)
  deriving DecidableEq, Repr

/-- What one word says, and the flag at its end whose arguments are in the words behind it. -/
structure Opening where
  items : List Item
  flag : Option Flag
  deriving DecidableEq, Repr

/-- What a word says in which some text is attached to the letter of a flag. Behind a flag that
takes no argument the letters of others are expected; anything else is too much for that flag. -/
def Flag.opening (f : Flag) : List Char → Except UsageError Opening
  | [] => do
    return ⟨[.use (← f.withAttached "")], none⟩
  | c :: text =>
    match f.alone?, ofLetter? c with
    | none, _ => do
      return ⟨[.use (← f.withAttached (String.ofList (c :: text)))], none⟩
    | some _, none => .error (.superfluousArgument f (String.ofList (c :: text)))
    | some use, some g => do
      let o ← if text = [] then .ok ⟨[], some g⟩ else g.opening text
      return { o with items := .use use :: o.items }

/-- What a word says. -/
def Word.opening (w : Word) : Except UsageError Opening :=
  match w.look with
  | .named f none => .ok ⟨[], some f⟩
  | .named f (some text) => do
    return ⟨[.use (← f.withAttached (String.ofList text))], none⟩
  | .lettered f none => .ok ⟨[], some f⟩
  | .lettered f (some text) => f.opening text
  | _ => .ok ⟨[.stray w.text], none⟩

/-- What the words of a command line say. -/
def Item.ofWords : List Word → List Item
  | [] => []
  | w :: ws =>
    match w.opening with
    | .error e => [.misuse e]
    | .ok ⟨items, none⟩ => items ++ ofWords ws
    | .ok ⟨items, some f⟩ =>
      match h : f.withFollowing ws with
      | .error e => [.misuse e]
      | .ok (u, rest) =>
        have := Flag.length_le_of_withFollowing h
        items ++ .use u :: ofWords rest
termination_by ws => ws.length

end Reckoner.CommandLine
