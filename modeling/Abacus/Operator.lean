import Abacus.Binary64.Arithmetic
import Abacus.Text.Basic

/-!
# Operators

The four operators, their symbols, and their meaning on binary64 numbers. Only a division by a
zero, of either sign, has no value: `Operator.apply_eq_none_iff`.
-/

namespace Abacus

/-- An arithmetic operator. -/
inductive Operator where
  | add
  | subtract
  | multiply
  | divide
  deriving DecidableEq

namespace Operator

/-- The operators in their order of listing. -/
def all : List Operator :=
  [add, subtract, multiply, divide]

/-- The character that stands for an operator. -/
def symbol : Operator → Char
  | add => '+'
  | subtract => '-'
  | multiply => '*'
  | divide => '/'

/-- The operator whose symbol is the whole text. -/
def ofText? : Text → Option Operator
  | ['+'] => some add
  | ['-'] => some subtract
  | ['*'] => some multiply
  | ['/'] => some divide
  | _ => none

/-- Why a text is no operator. -/
def unknownMessage (text : Text) : Text :=
  "unknown operator '".toList ++ text ++ "'".toList

/-- The result of an operator on two numbers. -/
def apply : Operator → Binary64 → Binary64 → Option Binary64
  | add, x, y => some (x.add y)
  | subtract, x, y => some (x.sub y)
  | multiply, x, y => some (x.mul y)
  | divide, x, y => if y.isZero then none else some (x.div y)

theorem ofText?_symbol (op : Operator) : ofText? [op.symbol] = some op := by
  cases op <;> rfl

theorem eq_symbol_of_ofText? {text : Text} {op : Operator} (h : ofText? text = some op) :
    text = [op.symbol] := by
  unfold ofText? at h
  split at h <;> simp at h <;> subst h <;> rfl

theorem apply_eq_none_iff (op : Operator) (x y : Binary64) :
    op.apply x y = none ↔ op = divide ∧ y.isZero = true := by
  cases op <;> simp [apply]

end Operator

end Abacus
