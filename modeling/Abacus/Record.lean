import Abacus.Expression

/-!
# Records

One accepted computation: the expression and its result. A record is never changed; a correction
is a further record.
-/

namespace Abacus

/-- An expression and the value it was given. -/
structure Record where
  left : Binary64
  operator : Operator
  right : Binary64
  result : Binary64
  deriving DecidableEq

namespace Record

/-- The record of an expression with a result. -/
def ofExpression (e : Expression) (result : Binary64) : Record :=
  ⟨e.left, e.operator, e.right, result⟩

/-- The expression of a record. -/
def expression (r : Record) : Expression :=
  ⟨r.left, r.operator, r.right⟩

/-- Equality by number, under which a NaN equals nothing. -/
def numEq (r s : Record) : Bool :=
  r.left.numEq s.left && r.operator == s.operator && r.right.numEq s.right &&
    r.result.numEq s.result

/-- A computation as it is listed: the operands, the operator, and the result. -/
def listing (r : Record) : Text :=
  Layout.result.print r.left ++ ' ' :: r.operator.symbol :: ' ' :: Layout.result.print r.right ++
    " = ".toList ++ Layout.result.print r.result

end Record

end Abacus
