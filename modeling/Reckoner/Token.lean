import Reckoner.Registers
import Reckoner.Number.Written

/-!
# Tokens

The words of the expression language. A constant is a number token with its value.
-/

namespace Reckoner

variable {φ : Type}

/-- An operator between two operands. -/
inductive BinaryOperator where
  | plus
  | minus
  | multiply
  | divide
  | exponent
  deriving DecidableEq, Repr

/-- How an operator is shown. -/
def BinaryOperator.title : BinaryOperator → String
  | plus => "Plus"
  | minus => "Minus"
  | multiply => "Multiply"
  | divide => "Divide"
  | exponent => "Exponent"

/-- A word of an expression. -/
inductive Token (φ : Type) where
  | number (value : Float)
  | operator (op : BinaryOperator)
  | openParen
  | closeParen
  | function (f : UnaryFunction φ)
  deriving DecidableEq, Repr

namespace Token

/-- The minus sign, which also negates. -/
abbrev minus : Token φ := operator .minus

/-- How a token is shown in messages and listings. -/
def shown : Token φ → String
  | number x => "Number(" ++ Number.written x ++ ")"
  | operator op => op.title
  | openParen => "OpenParen"
  | closeParen => "CloseParen"
  | function f => "UnaryFunction(" ++ f.name ++ ")"

/-- The token of an operator character. -/
def ofOperatorChar? : Char → Option (Token φ)
  | '+' => some (operator .plus)
  | '-' => some minus
  | '*' => some (operator .multiply)
  | '/' => some (operator .divide)
  | '^' => some (operator .exponent)
  | '(' => some openParen
  | ')' => some closeParen
  | _ => none

/-- The operator characters, in the order in which the lexical grammar lists them. -/
def operatorChars : List Char :=
  ['+', '-', '*', '/', '^', '(', ')']

theorem mem_operatorChars_iff (c : Char) :
    c ∈ operatorChars ↔ (ofOperatorChar? c : Option (Token φ)).isSome := by
  simp only [operatorChars, List.mem_cons, List.not_mem_nil, or_false]
  constructor
  · rintro (rfl | rfl | rfl | rfl | rfl | rfl | rfl) <;> rfl
  · intro h
    unfold ofOperatorChar? at h
    split at h <;> simp_all

end Token
end Reckoner
