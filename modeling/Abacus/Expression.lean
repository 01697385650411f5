import Abacus.Decimal.Layout
import Abacus.Operator

/-!
# Expressions and evaluation errors

A line that is computed holds two operands and an operator between them. `EvalError` lists why a
line has no result, and `EvalError.message` words each reason.
-/

namespace Abacus

/-- Why a line has no result. -/
inductive EvalError where
  /-- The line has another number of words than an expression. -/
  | invalidFormat (words : Nat)
  /-- These operands are not finite numbers. -/
  | invalidNumber (operands : List Text)
  /-- The word between the operands is no operator. -/
  | invalidOperator (word : Text)
  /-- The divisor is a zero. -/
  | divisionByZero
  deriving DecidableEq

namespace EvalError

/-- The wording of an error. -/
def message : EvalError → Text
  | invalidFormat words =>
    "Invalid expression format: expected '<number> <operator> <number>', got ".toList ++
      toDigits words ++ " token(s)".toList
  | invalidNumber operands =>
    "Invalid number format: ".toList ++ ", ".toList.intercalate operands ++
      ". Please enter valid numbers".toList
  | invalidOperator word =>
    "Invalid operation '".toList ++ word ++ "'. Use one of +, -, *, /".toList
  | divisionByZero => "Division by zero".toList

end EvalError

/-- Two operands and an operator. -/
structure Expression where
  left : Binary64
  operator : Operator
  right : Binary64
  deriving DecidableEq

namespace Expression

/-- The result of an expression. -/
def evaluate (e : Expression) : Except EvalError Binary64 :=
  match e.operator.apply e.left e.right with
  | some value => .ok value
  | none => .error .divisionByZero

/-- The text of an expression, in plain numbers. -/
def print (e : Expression) : Text :=
  Layout.plain.print e.left ++ ' ' :: e.operator.symbol :: ' ' :: Layout.plain.print e.right

end Expression

end Abacus
