import Reckoner.Fault
import Reckoner.Lexer
import Reckoner.Parser

/-!
# The calculator

A calculator has an angle mode, registers, and the lexicon that was made of them when it was set up.
It evaluates a text by lexing, parsing and evaluating the tree.
-/

namespace Reckoner

variable {φ : Type}

/-- Why a text has no value. -/
inductive ExpressionError (φ : Type) where
  | empty
  | lex (e : LexError)
  | parse (e : ParseError φ)
  deriving DecidableEq, Repr

def ExpressionError.message : ExpressionError φ → String
  | empty => "Please supply an expression to evaluate"
  | lex e => e.message
  | parse e => e.message

/-- What is wrong with a text that has no value. -/
def ExpressionError.kind : ExpressionError φ → FaultKind
  | empty => .evaluation
  | lex e => e.fault.kind
  | parse _ => .parsing

/-- Whatever is wrong with an expression, it could not be turned into a number. -/
theorem ExpressionError.isEvaluation_kind (e : ExpressionError φ) : e.kind.isEvaluation = true := by
  cases e with
  | empty => rfl
  | lex e => rw [kind, e.fault_kind]; rfl
  | parse e => rfl

/-- A calculator. -/
structure Calculator (φ : Type) where
  mode : AngleMode
  registers : Registers φ
  lexicon : Lexicon φ
  deriving DecidableEq, Repr

namespace Calculator

/-- A calculator for the names of some registers. -/
def new (mode : AngleMode) (registers : Registers φ) : Calculator φ :=
  ⟨mode, registers, .ofRegisters registers⟩

/-- The tokens of a text. -/
def tokens (c : Calculator φ) (text : String) : Except (ExpressionError φ) (List (Token φ)) :=
  (c.lexicon.lex text).complete.mapError .lex

/-- The tree of a text. -/
def tree (c : Calculator φ) (text : String) : Except (ExpressionError φ) (Tree φ) := do
  let ts ← c.tokens text
  (parse ts).mapError .parse

/-- The value of a text. -/
def evaluate [Callable φ] (c : Calculator φ) (text : String) :
    Except (ExpressionError φ) Float := do
  if text.isEmpty then throw .empty
  let t ← c.tree text
  return t.eval c.mode

theorem evaluate_eq [Callable φ] (c : Calculator φ) (text : String) :
    c.evaluate text =
      if text.isEmpty then .error .empty else (c.tree text).map fun t => t.eval c.mode := by
  unfold evaluate
  split
  · rfl
  · cases c.tree text <;> rfl

/-- A function may be whatever makes a number of a number. -/
example :
    let r : Registers (AngleMode → Float → Float) := ⟨[⟨"double", fun _ x => 2 * x⟩], []⟩
    ((new .degrees r).evaluate "double(double(10) + 1)").toOption = some 42 := by
  decide +kernel

end Calculator
end Reckoner
