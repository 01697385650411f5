import Abacus.Text.Basic

/-!
# Rows of comma-separated tables

A table is read row by row. A field that starts with a quote runs to its closing quote, a quote
inside is doubled, and what follows the closing quote is part of the field as it stands; a quote
anywhere else is an ordinary byte. A row ends at a line feed or at a carriage return, and line
ends before a row belong to no row. `Table.scan` cuts one row off the front, `Table.rows` all,
each with the place where the one before it ended.
-/

namespace Abacus.Table

/-- Separates fields. -/
def comma : UInt8 := 0x2C

/-- Encloses a field. -/
def quoteMark : UInt8 := 0x22

/-- Ends a row, as a line feed does. -/
def carriageReturn : UInt8 := 0x0D

/-- Ends a row. -/
def isLineEnd (b : UInt8) : Bool :=
  b == lineFeed || b == carriageReturn

/-- A place between two bytes: the line counted from 1 by line feeds, and the bytes before it. -/
structure Position where
  line : Nat
  byte : Nat
  deriving DecidableEq

/-- The place behind a byte. -/
def Position.after (p : Position) (b : UInt8) : Position :=
  ⟨if b = lineFeed then p.line + 1 else p.line, p.byte + 1⟩

/-! ## One byte -/

/-- Where a scan stands in a row. -/
inductive Mode where
  /-- Before the first byte of a row. -/
  | rowStart
  /-- Before the first byte of a later field. -/
  | fieldStart
  /-- Outside quotes. -/
  | bare
  /-- Inside quotes. -/
  | quoted
  /-- Behind a quote inside quotes, which closes them unless another follows. -/
  | closing
  deriving DecidableEq

/-- What a byte does. -/
inductive Action where
  /-- It is not part of the field. -/
  | skip (mode : Mode)
  /-- It is part of the field. -/
  | keep (mode : Mode)
  /-- It ends the field. -/
  | endField
  /-- It ends the row. -/
  | endRow
  deriving DecidableEq

/-- A byte outside quotes. -/
def bareAction (b : UInt8) : Action :=
  if b = comma then .endField
  else if isLineEnd b then .endRow
  else .keep .bare

/-- A byte where a field may start. -/
def openAction (b : UInt8) : Action :=
  if b = quoteMark then .skip .quoted else bareAction b

/-- What a byte does in a mode. -/
def action : Mode → UInt8 → Action
  | .rowStart, b => if isLineEnd b then .skip .rowStart else openAction b
  | .fieldStart, b => openAction b
  | .bare, b => bareAction b
  | .quoted, b => if b = quoteMark then .skip .closing else .keep .quoted
  | .closing, b => if b = quoteMark then .keep .quoted else bareAction b

/-! ## One row -/

/-- A row cut off the front of some bytes. -/
structure Cut where
  fields : List Bytes
  /-- Whether the end of the row was read, rather than the end of the bytes. -/
  ended : Bool
  /-- The place behind the row. -/
  next : Position
  rest : Bytes

/-- Scans on to the end of a row. The field under way and the fields before it are held backwards;
there is no row if only line ends are left. -/
def scan : Mode → Bytes → List Bytes → Position → Bytes → Option Cut
  | mode, field, fields, p, [] =>
    if mode = .rowStart then none else some ⟨(field.reverse :: fields).reverse, false, p, []⟩
  | mode, field, fields, p, b :: rest =>
    match action mode b with
    | .skip mode' => scan mode' field fields (p.after b) rest
    | .keep mode' => scan mode' (b :: field) fields (p.after b) rest
    | .endField => scan .fieldStart [] (field.reverse :: fields) (p.after b) rest
    | .endRow => some ⟨(field.reverse :: fields).reverse, true, p.after b, rest⟩

theorem length_rest_scan_le {mode : Mode} {field : Bytes} {fields : List Bytes} {p : Position}
    {bytes : Bytes} {cut : Cut} (h : scan mode field fields p bytes = some cut) :
    cut.rest.length ≤ bytes.length - 1 := by
  induction bytes generalizing mode field fields p with
  | nil =>
    rw [scan] at h
    split at h
    · simp at h
    · simp only [Option.some.injEq] at h
      subst h
      simp
  | cons b rest ih =>
    rw [scan] at h
    split at h
    · exact Nat.le_trans (ih h) (by simp)
    · exact Nat.le_trans (ih h) (by simp)
    · exact Nat.le_trans (ih h) (by simp)
    · simp only [Option.some.injEq] at h
      subst h
      simp

/-! ## All rows -/

/-- A row of a table. -/
structure Row where
  /-- The number of the row, the header being 0. -/
  number : Nat
  /-- The place where the row before it ended. -/
  start : Position
  fields : List Bytes
  /-- Whether the end of the row was read, rather than the end of the bytes. -/
  ended : Bool

/-- The rows from a place on. -/
def rowsFrom (number : Nat) (start : Position) (bytes : Bytes) : List Row :=
  match h : scan .rowStart [] [] start bytes with
  | none => []
  | some cut =>
    ⟨number, start, cut.fields, cut.ended⟩ :: rowsFrom (number + 1) cut.next cut.rest
termination_by bytes.length
decreasing_by
  cases bytes with
  | nil => simp [scan] at h
  | cons b rest => exact Nat.lt_succ_of_le (length_rest_scan_le h)

/-- The rows of a table. A byte order mark in front is passed over; its bytes count. -/
def rows : Bytes → List Row
  | 0xEF :: 0xBB :: 0xBF :: rest => rowsFrom 0 ⟨1, 3⟩ rest
  | bytes => rowsFrom 0 ⟨1, 0⟩ bytes

end Abacus.Table
