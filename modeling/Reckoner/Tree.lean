import Reckoner.Token

/-!
# Syntax trees

The trees that expressions are read into, how they are shown, and their values. Parentheses leave no
node. Every operand is evaluated; the arithmetic is that of IEEE 754, so nothing fails.
-/

namespace Reckoner

variable {φ ψ : Type}

namespace BinaryOperator

/-- The result of an operator. -/
def apply : BinaryOperator → Float → Float → Float
  | plus, x, y => x + y
  | minus, x, y => x - y
  | multiply, x, y => x * y
  | divide, x, y => x / y
  | exponent, x, y => Float.pow x y

/-- An operator as a node of a tree shows it. -/
def shown (op : BinaryOperator) : String :=
  "Token(kind=<TokenKind." ++ op.title.toUpper ++ ": '" ++ op.title ++ "'>, value=None)"

end BinaryOperator

/-- An expression. -/
inductive Tree (φ : Type) where
  | number (value : Float)
  | negate (operand : Tree φ)
  | binary (op : BinaryOperator) (left right : Tree φ)
  | call (f : UnaryFunction φ) (argument : Tree φ)
  deriving DecidableEq, Repr

namespace Tree

/-- How a tree is shown. -/
def shown : Tree φ → String
  | number x => "Number(value=" ++ Number.written x ++ ")"
  | negate t => "UnaryOp(op=" ++ BinaryOperator.minus.shown ++ ", expr=" ++ t.shown ++ ")"
  | binary op l r =>
    "BinaryOp(left=" ++ l.shown ++ ", op=" ++ op.shown ++ ", right=" ++ r.shown ++ ")"
  | call f t => "FunctionCall(function=" ++ f.shown ++ ", expr=" ++ t.shown ++ ")"

/-- The value of a tree in an angle mode. -/
def eval [Callable φ] (mode : AngleMode) : Tree φ → Float
  | number x => x
  | negate t => -t.eval mode
  | binary op l r => op.apply (l.eval mode) (r.eval mode)
  | call f t => f.apply mode (t.eval mode)

/-- The tree with its functions taken for others of the same names. -/
def map (g : φ → ψ) : Tree φ → Tree ψ
  | number x => number x
  | negate t => negate (t.map g)
  | binary op l r => binary op (l.map g) (r.map g)
  | call f t => call ⟨f.name, g f.function⟩ (t.map g)

/-- Functions that make the same of every number make the same value. -/
theorem eval_map [Callable φ] [Callable ψ] {g : φ → ψ}
    (hg : ∀ f, Callable.call (g f) = Callable.call f) (mode : AngleMode) (t : Tree φ) :
    (t.map g).eval mode = t.eval mode := by
  induction t with
  | number x => rfl
  | negate t ih => simp only [map, eval, ih]
  | binary op l r ihl ihr => simp only [map, eval, ihl, ihr]
  | call f t ih => simp only [map, eval, UnaryFunction.apply, hg, ih]

end Tree
end Reckoner
