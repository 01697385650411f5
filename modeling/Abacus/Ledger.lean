import Abacus.Record

/-!
# The ledger

The records of one session, oldest first. Records are appended and never removed, so the ledger
at any moment is a prefix of the ledger later: `Ledger.toList_append`.
-/

namespace Abacus

/-- The records of a session, oldest first. -/
structure Ledger where
  records : Array Record

namespace Ledger

/-- The ledger without records. -/
def empty : Ledger :=
  ⟨#[]⟩

/-- A ledger with one record more. -/
def append (ledger : Ledger) (record : Record) : Ledger :=
  ⟨ledger.records.push record⟩

/-- The records, oldest first. -/
def toList (ledger : Ledger) : List Record :=
  ledger.records.toList

/-- How many records there are. -/
def size (ledger : Ledger) : Nat :=
  ledger.records.size

/-- There are no records. -/
def isEmpty (ledger : Ledger) : Bool :=
  ledger.records.isEmpty

/-- The record appended last. -/
def last? (ledger : Ledger) : Option Record :=
  ledger.records.back?

@[simp] theorem toList_empty : empty.toList = [] := rfl

@[simp] theorem toList_append (ledger : Ledger) (record : Record) :
    (ledger.append record).toList = ledger.toList ++ [record] := by
  simp [append, toList]

@[simp] theorem length_toList (ledger : Ledger) : ledger.toList.length = ledger.size := by
  simp [toList, size]

theorem isEmpty_iff (ledger : Ledger) : ledger.isEmpty = true ↔ ledger.toList = [] := by
  simp [isEmpty, toList]

theorem last?_eq (ledger : Ledger) : ledger.last? = ledger.toList.getLast? := by
  simp [last?, toList]

end Ledger

end Abacus
