import Abacus.Decimal.Digits
import Abacus.History.Column
import Abacus.Operator
import Abacus.Table.Row

/-!
# Errors of reading a history

Why a table is not a history, and at which row. `ReadError.chain` words an error and its cause.
-/

namespace Abacus.History

/-- Why the values of a row make no record. -/
inductive ValueError where
  /-- The header has the column twice. -/
  | duplicate (column : Column)
  /-- The field should be a number and is empty. -/
  | emptyNumber (field : Nat)
  /-- The field should be a number and is none. -/
  | malformedNumber (field : Nat)
  /-- The text should be an operator and is none. -/
  | unknownOperator (text : Text)
  /-- The header lacks the column. -/
  | missing (column : Column)
  /-- A row without names has fewer fields than there are columns. -/
  | tooFew (fields : Nat)
  deriving DecidableEq

/-- Why a row makes no record. -/
inductive RowError where
  /-- The row has another number of fields than the header. -/
  | width (found expected : Nat)
  /-- A field is not UTF-8 from some byte on. -/
  | encoding (field validLength : Nat)
  /-- The values make no record. -/
  | value (error : ValueError)
  deriving DecidableEq

/-- What ended the reading of a table. -/
inductive Cause where
  /-- A row, with its number and the place where the one before it ended. -/
  | row (number : Nat) (start : Table.Position) (error : RowError)
  /-- The stream that delivers the table. -/
  | stream (reason : Text)
  deriving DecidableEq

/-- Why reading a table failed, and at which row, as if each row took one line. -/
structure ReadError where
  line : Nat
  cause : Cause
  deriving DecidableEq

/-- The wording of an error in the values of a row. -/
def ValueError.message : ValueError → Text
  | .duplicate column => "duplicate field `".toList ++ column.name ++ "`".toList
  | .emptyNumber field =>
    "field ".toList ++ toDigits field ++ ": cannot parse float from empty string".toList
  | .malformedNumber field => "field ".toList ++ toDigits field ++ ": invalid float literal".toList
  | .unknownOperator text =>
    "unknown variant `".toList ++ text ++ "`, expected one of `+`, `-`, `*`, `/`".toList
  | .missing column => "missing field `".toList ++ column.name ++ "`".toList
  | .tooFew fields =>
    "invalid length ".toList ++ toDigits fields ++
      ", expected struct CalculationRecord with 4 elements".toList

/-- The place of a row as an error names it. -/
def rowPlace (number : Nat) (start : Table.Position) : Text :=
  "record ".toList ++ toDigits number ++ " (line: ".toList ++ toDigits start.line ++
    ", byte: ".toList ++ toDigits start.byte ++ "): ".toList

/-- The wording of an error in a row. -/
def RowError.message (number : Nat) (start : Table.Position) : RowError → Text
  | .width found expected =>
    "CSV error: ".toList ++ rowPlace number start ++ "found record with ".toList ++
      toDigits found ++ " fields, but the previous record has ".toList ++ toDigits expected ++
      " fields".toList
  | .encoding field validLength =>
    "CSV parse error: record ".toList ++ toDigits number ++ " (line ".toList ++
      toDigits start.line ++ ", field: ".toList ++ toDigits field ++ ", byte: ".toList ++
      toDigits start.byte ++ "): invalid utf-8: invalid UTF-8 in field ".toList ++
      toDigits field ++ " near byte index ".toList ++ toDigits validLength
  | .value error => "CSV deserialize error: ".toList ++ rowPlace number start ++ error.message

/-- The wording of a cause. -/
def Cause.message : Cause → Text
  | .row number start error => error.message number start
  | .stream reason => reason

/-- The wording of an error. -/
def ReadError.message (error : ReadError) : Text :=
  "Invalid history row at line ".toList ++ toDigits error.line

/-- The wordings of an error and its cause, the outermost first. -/
def ReadError.chain (error : ReadError) : List Text :=
  [error.message, error.cause.message]

end Abacus.History
