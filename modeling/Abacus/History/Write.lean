import Abacus.History.Column
import Abacus.Record
import Abacus.Stream

/-!
# Writing a history

A history is written as a table: the header, then a line for each record, oldest first. A field
that holds a character that separates is put in quotes, and so is a field that would leave its line
empty. The lines go out one behind the other, and those of records are counted. An output without
the room for all of them gets what fits, and the count is not given.
-/

namespace Abacus.History

/-- Cannot stand in a field without quotes. -/
def needsQuotes (c : Char) : Bool :=
  ",\"\n\r".toList.contains c

/-- A field in quotes, its own quotes written twice. -/
def quoted (field : Text) : Text :=
  '"' :: field.flatMap (fun c => if c = '"' then ['"', '"'] else [c]) ++ ['"']

/-- A field as it is written. -/
def writeField (field : Text) : Text :=
  if field.any needsQuotes then quoted field else field

/-- Fields as a line. -/
def line (fields : List Text) : Text :=
  let written := [','].intercalate (fields.map writeField)
  (if written = [] then quoted [] else written) ++ ['\n']

/-- The header line. -/
def headerLine : Text :=
  line (Column.all.map Column.name)

/-- The fields of a record in the order of the columns. -/
def fields (r : Record) : List Text :=
  [Layout.field.print r.left, [r.operator.symbol], Layout.field.print r.right,
    Layout.field.print r.result]

/-- The line of a record. -/
def recordLine (r : Record) : Text :=
  line (fields r)

/-- The text of a history. -/
def text (records : List Record) : Text :=
  headerLine ++ records.flatMap recordLine

/-- The bytes of a history. -/
def bytes (records : List Record) : Bytes :=
  Utf8.encode (text records)

/-! ## Outputs -/

/-- What came of writing a history: the bytes that went out, and how many records were written or
why the output failed. -/
structure Writing where
  output : Bytes
  result : Except Text Nat

/-- What came of writing bytes first, which went out, and then the rest. -/
def Writing.behind (rest : Writing) (bytes : Bytes) : Writing :=
  ⟨bytes ++ rest.output, rest.result⟩

/-- Writes the lines of records to an output that has got some number of them. -/
def writeRecords (room : Room) (count : Nat) : List Record → Writing
  | [] => ⟨[], .ok count⟩
  | record :: records =>
    let bytes := Utf8.encode (recordLine record)
    match room.write bytes with
    | .ok room' => (writeRecords room' (count + 1) records).behind bytes
    | .error (sent, reason) => ⟨sent, .error reason⟩

/-- Writes a history to an output. -/
def write (room : Room) (records : List Record) : Writing :=
  let bytes := Utf8.encode headerLine
  match room.write bytes with
  | .ok room' => (writeRecords room' 0 records).behind bytes
  | .error (sent, reason) => ⟨sent, .error reason⟩

end Abacus.History
