import Abacus.History.Error
import Abacus.Record
import Abacus.Stream

/-!
# Reading a history

A history is read back from a table. The first row is the header, and it is not judged: its
names tell which column holds what, wherever the columns stand, and columns of other names are
passed over. A header that is not UTF-8 names nothing, and the columns are then taken in their
order. Reading stops at the first row that makes no record, so a table gives all its records or
none. A row without its end at a broken end of the stream is lost, and a table without a header
has no records.
-/

namespace Abacus.History

/-! ## Values of a row -/

/-- The values of a row found so far. -/
structure Draft where
  left : Option Binary64
  operator : Option Operator
  right : Option Binary64
  result : Option Binary64

namespace Draft

/-- A row of which nothing is known. -/
def blank : Draft :=
  ⟨none, none, none, none⟩

/-- Whether a column has its value. -/
def has (draft : Draft) : Column → Bool
  | .left => draft.left.isSome
  | .operator => draft.operator.isSome
  | .right => draft.right.isSome
  | .result => draft.result.isSome

/-- The number that a field holds. -/
def number (field : Nat) (text : Text) : Except ValueError Binary64 :=
  match Binary64.read? text with
  | some value => .ok value
  | none => .error (if text = [] then .emptyNumber field else .malformedNumber field)

/-- The operator that a field holds. -/
def operatorOf (text : Text) : Except ValueError Operator :=
  match Operator.ofText? text with
  | some op => .ok op
  | none => .error (.unknownOperator text)

/-- Takes the value of a column from a field that has not had one. -/
def set (draft : Draft) (field : Nat) (text : Text) : Column → Except ValueError Draft
  | .left => (number field text).map fun value => ⟨value, draft.operator, draft.right, draft.result⟩
  | .operator => (operatorOf text).map fun op => ⟨draft.left, op, draft.right, draft.result⟩
  | .right => (number field text).map fun value => ⟨draft.left, draft.operator, value, draft.result⟩
  | .result => (number field text).map fun value => ⟨draft.left, draft.operator, draft.right, value⟩

/-- Takes the value of a column from a field; no column may come twice. -/
def put (draft : Draft) (field : Nat) (text : Text) (column : Column) : Except ValueError Draft :=
  if draft.has column then .error (.duplicate column) else draft.set field text column

/-- Takes the fields of a row from left to right, each into the column it stands in. -/
def fill (draft : Draft) (field : Nat) : List (Option Column × Text) → Except ValueError Draft
  | [] => .ok draft
  | (none, _) :: rest => draft.fill (field + 1) rest
  | (some column, text) :: rest =>
    match draft.put field text column with
    | .ok draft' => draft'.fill (field + 1) rest
    | .error error => .error error

/-- The record of a row, or the first column without a value. -/
def record (draft : Draft) : Except ValueError Record :=
  match draft.left, draft.operator, draft.right, draft.result with
  | some left, some operator, some right, some result => .ok ⟨left, operator, right, result⟩
  | none, _, _, _ => .error (.missing .left)
  | _, none, _, _ => .error (.missing .operator)
  | _, _, none, _ => .error (.missing .right)
  | _, _, _, none => .error (.missing .result)

end Draft

/-! ## Rows -/

/-- What the header says of the columns. -/
inductive Header where
  /-- The column that each field names, if it names one. -/
  | named (columns : List (Option Column))
  /-- The header is no text, and the columns stand in their order. -/
  | unnamed
  deriving DecidableEq

/-- The texts of some fields, if all are UTF-8. -/
def texts? : List Bytes → Option (List Text)
  | [] => some []
  | field :: rest =>
    match Utf8.decode? field, texts? rest with
    | some text, some others => some (text :: others)
    | _, _ => none

/-- What the fields of a header say of the columns. -/
def Header.ofFields (fields : List Bytes) : Header :=
  match texts? fields with
  | some names => named (names.map Column.ofName?)
  | none => unnamed

/-- The texts of the fields of a row, from a field number on. -/
def rowTexts (field : Nat) : List Bytes → Except RowError (List Text)
  | [] => .ok []
  | bytes :: rest =>
    match Utf8.decode? bytes with
    | none => .error (.encoding field (Utf8.validLength bytes))
    | some text => (rowTexts (field + 1) rest).map (text :: ·)

/-- The record that texts make under a header. -/
def recordOf : Header → List Text → Except ValueError Record
  | .named columns, texts =>
    match Draft.blank.fill 0 (columns.zip texts) with
    | .ok draft => draft.record
    | .error error => .error error
  | .unnamed, texts =>
    match Draft.blank.fill 0 ((Column.all.map some).zip texts) with
    | .ok draft => if texts.length < 4 then .error (.tooFew texts.length) else draft.record
    | .error error => .error error

/-- The record of a row under a header of some width. -/
def readRow (header : Header) (width : Nat) (fields : List Bytes) : Except RowError Record :=
  if fields.length ≠ width then
    .error (.width fields.length width)
  else
    match rowTexts 0 fields with
    | .error error => .error error
    | .ok texts =>
      match recordOf header texts with
      | .ok record => .ok record
      | .error error => .error (.value error)

/-! ## Tables -/

/-- The records of rows up to the end of the stream; `line` counts the rows. -/
def readRows (header : Header) (width : Nat) (ending : Ending) (line : Nat) :
    List Table.Row → Except ReadError (List Record)
  | [] =>
    match ending with
    | .finished => .ok []
    | .broken reason => .error ⟨line, .stream reason⟩
  | row :: rows =>
    match readRow header width row.fields with
    | .error error => .error ⟨line, .row row.number row.start error⟩
    | .ok record => (readRows header width ending (line + 1) rows).map (record :: ·)

/-- The rows that count: at a broken end, only those that were read to their end. -/
def wholeRows (ending : Ending) (rows : List Table.Row) : List Table.Row :=
  match ending with
  | .finished => rows
  | .broken _ => rows.filter (·.ended)

/-- The records of a table. -/
def read (bytes : Bytes) (ending : Ending) : Except ReadError (List Record) :=
  match wholeRows ending (Table.rows bytes) with
  | [] => .ok []
  | header :: rows =>
    readRows (.ofFields header.fields) header.fields.length ending 2 rows

end Abacus.History
