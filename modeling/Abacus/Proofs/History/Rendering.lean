import Abacus.Proofs.History.Rows
import Abacus.Proofs.Table.Rendering
import Mathlib.Data.List.Forall2

/-!
# Reading does not depend on the rendering

Reading sees the rows of a table and not how they are written. `read_eq_readTable`: what is read
from a rendering is what the rows of its table give, up to the places that an error names.
`readRows_eq_ok_iff`: rows are read exactly if each of them makes a record.
`read_rendering_congr` joins the two for any two renderings of one table.
-/

namespace Abacus.History

open Table

/-! ## Outcomes without places -/

/-- A cause with the place of its row left out. -/
def Cause.unplaced : Cause → Cause
  | .row number _ error => .row number ⟨1, 0⟩ error
  | .stream reason => .stream reason

/-- An error with the place of its row left out; the line that it names is a count of rows. -/
def ReadError.unplaced (error : ReadError) : ReadError :=
  ⟨error.line, error.cause.unplaced⟩

/-- What a reading came to, but for the place of the row at which it failed. -/
def outcome (result : Except ReadError (List Record)) : Except ReadError (List Record) :=
  result.mapError ReadError.unplaced

theorem outcome_ok (records : List Record) : outcome (.ok records) = .ok records := rfl

theorem eq_ok_of_outcome {result : Except ReadError (List Record)} {records : List Record}
    (h : outcome result = .ok records) : result = .ok records := by
  cases result with
  | error error => cases h
  | ok others => exact h

theorem outcome_map_cons (result : Except ReadError (List Record)) (record : Record) :
    outcome (result.map (record :: ·)) = (outcome result).map (record :: ·) := by
  cases result <;> rfl

/-- Places of rows reach the places in errors and nothing else. -/
theorem outcome_readRows (header : Header) (width : Nat) (ending : Ending) (line : Nat)
    (rows : List Row) :
    outcome (readRows header width ending line (rows.map Row.unplaced)) =
      outcome (readRows header width ending line rows) := by
  induction rows generalizing line with
  | nil => rfl
  | cons row rows ih =>
    rw [List.map_cons, readRows, readRows]
    cases hrow : readRow header width row.fields with
    | error error =>
      rw [show row.unplaced.fields = row.fields from rfl, hrow]
      rfl
    | ok record =>
      rw [show row.unplaced.fields = row.fields from rfl, hrow]
      simp only [outcome_map_cons, ih]

/-! ## Tables -/

/-- The records of a table whose rows are known. -/
def readTable (table : List (List Bytes)) : Except ReadError (List Record) :=
  match table with
  | [] => .ok []
  | header :: rows =>
    readRows (.ofFields header) header.length .finished 2 (numbered 1 rows)

/-- What is read from a rendering is what the rows of the table give. -/
theorem read_eq_readTable {table : List (List Bytes)} {bytes : Bytes} (h : Rendering table bytes)
    (hfirst : ∀ fields ∈ table.head?, ∀ field ∈ fields.head?, ¬byteOrderMark <+: field) :
    outcome (read bytes .finished) = outcome (readTable table) := by
  have hrows := unplaced_rows h hfirst
  rw [read, wholeRows]
  cases table with
  | nil =>
    rw [numbered, List.map_eq_nil_iff] at hrows
    rw [hrows]
    rfl
  | cons header table =>
    rw [numbered, List.map_eq_cons_iff] at hrows
    obtain ⟨row, others, hbytes, hrow, hothers⟩ := hrows
    have hfields : row.fields = header := congrArg Row.fields hrow
    rw [hbytes, readTable, ← hothers, outcome_readRows]
    simp only [hfields]

theorem results_numbered (header : Header) (width number : Nat) (rows : List (List Bytes)) :
    results header width (numbered number rows) = rows.map (readRow header width) := by
  induction rows generalizing number with
  | nil => rfl
  | cons fields rows ih => exact congrArg (readRow header width fields :: ·) (ih (number + 1))

/-- Rows are read exactly if each of them makes a record. -/
theorem readRows_eq_ok_iff (header : Header) (width line number : Nat) (rows : List (List Bytes))
    (records : List Record) :
    readRows header width .finished line (numbered number rows) = .ok records ↔
      List.Forall₂ (fun fields record => readRow header width fields = .ok record) rows
        records := by
  rw [readRows_eq_ok_iff_results, results_numbered, ← List.forall₂_eq_eq_eq,
    List.forall₂_map_left_iff, List.forall₂_map_right_iff]

/-- Two renderings of one table read alike, whether their rows make records or not: the same
records, which are those of the rows, or a failure at the same row for the same cause. -/
theorem read_rendering_congr {header : List Bytes} {rows : List (List Bytes)}
    {first second : Bytes} (hmark : ∀ field ∈ header.head?, ¬byteOrderMark <+: field)
    (hfirst : Rendering (header :: rows) first) (hsecond : Rendering (header :: rows) second) :
    outcome (read first .finished) = outcome (read second .finished) ∧
      ∀ records, read first .finished = .ok records ↔
        List.Forall₂ (fun fields record =>
          readRow (.ofFields header) header.length fields = .ok record) rows records := by
  have hmark' : ∀ fields ∈ (header :: rows).head?, ∀ field ∈ fields.head?,
      ¬byteOrderMark <+: field := by
    intro fields hfields
    obtain rfl : header = fields := Option.some.inj hfields
    exact hmark
  have hread := read_eq_readTable hfirst hmark'
  refine ⟨hread.trans (read_eq_readTable hsecond hmark').symm, fun records => ?_⟩
  rw [← readRows_eq_ok_iff _ _ 2 1]
  constructor
  · intro h
    rw [h] at hread
    exact eq_ok_of_outcome hread.symm
  · intro h
    rw [show readTable (header :: rows) = .ok records from h] at hread
    exact eq_ok_of_outcome hread

/-- One table twice: plain, and with a mark, an empty line, other quotes, carriage returns and no
end of the last row. -/
theorem read_rendering_congr_marked :
    outcome (read [0x61, 0x2C, 0x62, 0x0A, 0x2C, 0x22, 0x22, 0x22, 0x22, 0x0A] .finished) =
      outcome (read ([0xEF, 0xBB, 0xBF, 0x0D, 0x0A, 0x22, 0x61, 0x22, 0x2C, 0x62, 0x0D, 0x0A] ++
        [0x22, 0x22, 0x2C, 0x22, 0x22, 0x22, 0x22]) .finished) := by
  have ha : FieldText [0x61] [0x61] := .bare ⟨List.forall_mem_singleton.2 (by decide), by decide⟩
  have hb : FieldText [0x62] [0x62] := .bare ⟨List.forall_mem_singleton.2 (by decide), by decide⟩
  have hnone : FieldText [] [] := .bare ⟨List.forall_mem_nil _, by decide⟩
  have hquote : FieldText [0x22] [0x22, 0x22, 0x22, 0x22] := .quoted
  have hplain : Rendering [[[0x61], [0x62]], [[], [0x22]]]
      [0x61, 0x2C, 0x62, 0x0A, 0x2C, 0x22, 0x22, 0x22, 0x22, 0x0A] :=
    .plain (.row (.cons ha (.last hb)) (by decide) .feed
      (.row (.cons hnone (.last hquote)) (by decide) .feed .nil))
  have hmarked : Rendering [[[0x61], [0x62]], [[], [0x22]]]
      [0xEF, 0xBB, 0xBF, 0x0D, 0x0A, 0x22, 0x61, 0x22, 0x2C, 0x62, 0x0D, 0x0A, 0x22, 0x22, 0x2C,
        0x22, 0x22, 0x22, 0x22] :=
    .marked (.emptyLine .both (.row (.cons .quoted (.last hb)) (by decide) .both
      (.lastRow (.cons .quoted (.last hquote)) (by decide))))
  exact (read_rendering_congr (by decide) hplain hmarked).1

end Abacus.History
