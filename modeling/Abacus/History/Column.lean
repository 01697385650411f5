import Abacus.Text.Utf8

/-!
# Columns of a history table

The four columns in which a record is written, in their order.
-/

namespace Abacus.History

/-- A column of a history table. -/
inductive Column where
  | left
  | operator
  | right
  | result
  deriving DecidableEq

namespace Column

/-- The columns in their order. -/
def all : List Column :=
  [left, operator, right, result]

/-- The name of a column in the header. -/
def name : Column → Text
  | left => "operand1".toList
  | operator => "operation".toList
  | right => "operand2".toList
  | result => "result".toList

/-- The column that a header field names. -/
def ofName? (name : Text) : Option Column :=
  all.find? fun column => column.name = name

end Column

end Abacus.History
