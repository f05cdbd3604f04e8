import Reckoner.Number.Literal

/-!
# Faults

What goes wrong is a fault of the user, whose message the user is shown as it is, or a fault from
elsewhere, which tells a user nothing. Rewording leaves the first alone and gives the second a kind
and a message of its own, a template filled in with the arguments of what was being done.
-/

namespace Reckoner

/-- What a user did wrong. -/
inductive FaultKind where
  | general
  | evaluation
  | lexing
  | parsing
  | conversion
  deriving DecidableEq, Repr

/-- Whether an expression could not be turned into a number. -/
def FaultKind.isEvaluation : FaultKind → Bool
  | evaluation | lexing | parsing => true
  | general | conversion => false

/-- A fault of the user, with the fault from elsewhere that it stands for. -/
structure UserFault (ε : Type) where
  kind : FaultKind
  message : String
  cause : Option ε := none
  deriving DecidableEq, Repr

/-- A fault of the user or, as `ε` describes it, from elsewhere. -/
inductive Fault (ε : Type) where
  | user (fault : UserFault ε)
  | elsewhere (fault : ε)
  deriving DecidableEq, Repr

/-- A character of a message, or the place of an argument. -/
inductive Piece where
  | character (c : Char)
  | place (index : Nat)
  deriving DecidableEq, Repr

/-- A message with places for arguments. -/
abbrev Template := List Piece

namespace Template

/-- Reads a template: the index of a place stands between braces, a brace of the message is
doubled. -/
def ofChars : List Char → Template
  | [] => []
  | '{' :: '{' :: text => .character '{' :: ofChars text
  | '}' :: '}' :: text => .character '}' :: ofChars text
  | '{' :: text =>
    have := (List.dropWhile_suffix Char.isDigit (l := text)).length_le
    .place (Number.ofDigits 0 (text.takeWhile Char.isDigit)) ::
      ofChars ((text.dropWhile Char.isDigit).drop 1)
  | c :: text => .character c :: ofChars text
termination_by text => text.length
decreasing_by all_goals (simp only [List.length_cons, List.length_drop]; omega)

/-- The message with the arguments in their places. Whoever fills a template gives an argument for
every place; one that has none stays empty. -/
def fill (template : Template) (arguments : List String) : String :=
  String.join (template.map fun
    | .character c => c.toString
    | .place index => arguments.getD index "")

end Template

/-- The outcome in which a fault from elsewhere has become one of the user. -/
def reword {ε α : Type} (template : Template) (kind : FaultKind) (arguments : List String) :
    Except (Fault ε) α → Except (UserFault ε) α
  | .ok a => .ok a
  | .error (.user fault) => .error fault
  | .error (.elsewhere fault) => .error ⟨kind, template.fill arguments, some fault⟩

example : (Template.ofChars "\x7b\x7b\x7b1\x7d\x7d\x7d: \x7b0\x7d".toList).fill ["a", "b"] =
    "\x7bb\x7d: a" := by
  decide +kernel

end Reckoner
