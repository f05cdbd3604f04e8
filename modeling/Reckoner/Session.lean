import Reckoner.Calculator
import Reckoner.Shelves

/-!
# Sessions

What one calculator answers to requests in turn. The lists that a calculator is given are copied
when it is set up, and its lexicon is made of the copies. Those who ask for the registers get the
copies themselves, so they can empty them; the names in the lexicon stay known for good. The
catalogs of functions and constants hand out new lists every time.
-/

namespace Reckoner

variable {φ : Type}

/-- What can be asked of a calculator, and what can be done to lists that have been handed out. -/
inductive Request where
  | evaluate (text : String)
  | lex (text : String)
  | setMode (text : String)
  | registers
  | clearFunctions
  | clearConstants
  | clearRegisters
  | clearGiven
  | clearCatalogs
  deriving DecidableEq, Repr

/-- What a calculator answers. -/
inductive Answer (φ : Type) where
  | value (x : Float)
  | lexed (l : Lexed φ)
  | done
  | registers (r : Registers φ)
  | invalid (e : ExpressionError φ)
  | unknownMode (e : UnknownAngleMode)
  deriving DecidableEq, Repr

/-- The answer that a value, or the want of one, makes. -/
def Answer.ofOutcome : Except (ExpressionError φ) Float → Answer φ
  | .ok x => .value x
  | .error e => .invalid e

/-- A calculator that is in use: the lists it was given stand in one place, its own registers in
another. -/
structure Session (φ : Type) where
  mode : AngleMode
  lexicon : Lexicon φ
  shelves : Shelves φ
  given : Places
  own : Places
  deriving DecidableEq, Repr

namespace Session

/-- The calculator as it is now. -/
def calculator (s : Session φ) : Calculator φ :=
  ⟨s.mode, s.shelves.read s.own, s.lexicon⟩

/-- Sets the mode that a text names. A mode that is not known changes nothing. -/
def setMode (s : Session φ) (text : String) : Answer φ × Session φ :=
  match AngleMode.parse text with
  | .ok mode => (.done, { s with mode := mode })
  | .error e => (.unknownMode e, s)

/-- Empties what the catalogs hand out and asks them again. -/
def clearCatalogs [Callable φ] (s : Session φ) : Answer φ × Session φ :=
  let handedOut := s.shelves.next
  let shelves := (s.shelves.put .catalog).clear handedOut
  let again := shelves.next
  let shelves := shelves.put .catalog
  (.registers (shelves.read again), { s with shelves := shelves })

/-- The answer to a request, and the session after it. -/
def serve [Callable φ] (s : Session φ) : Request → Answer φ × Session φ
  | .evaluate text => (.ofOutcome (s.calculator.evaluate text), s)
  | .lex text => (.lexed (s.lexicon.lex text), s)
  | .setMode text => s.setMode text
  | .registers => (.registers (s.shelves.read s.own), s)
  | .clearFunctions => (.done, { s with shelves := s.shelves.clearFunctions s.own })
  | .clearConstants => (.done, { s with shelves := s.shelves.clearConstants s.own })
  | .clearRegisters => (.done, { s with shelves := s.shelves.clear s.own })
  | .clearGiven => (.done, { s with shelves := s.shelves.clear s.given })
  | .clearCatalogs => s.clearCatalogs

/-- The answers to requests in turn, each with the angle mode after it. -/
def run [Callable φ] (s : Session φ) : List Request → List (Answer φ × AngleMode)
  | [] => []
  | q :: qs => ((s.serve q).1, (s.serve q).2.mode) :: (s.serve q).2.run qs

/-- The session after requests in turn. -/
def after [Callable φ] (s : Session φ) (qs : List Request) : Session φ :=
  qs.foldl (fun s q => (s.serve q).2) s

end Session

namespace Calculator

/-- The session of a calculator that has just been set up: it holds a copy of the lists it was
given. -/
def session (c : Calculator φ) : Session φ :=
  let given := ({} : Shelves φ).next
  let shelves := ({} : Shelves φ).put c.registers
  { mode := c.mode, lexicon := c.lexicon, given := given, own := shelves.next,
    shelves := shelves.put (shelves.read given) }

/-- The answers of a calculator to requests in turn, each with the angle mode after it. -/
def run [Callable φ] (c : Calculator φ) (qs : List Request) : List (Answer φ × AngleMode) :=
  c.session.run qs

end Calculator
end Reckoner
