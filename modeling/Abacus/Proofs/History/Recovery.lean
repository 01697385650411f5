import Abacus.Proofs.History.Rows
import Abacus.Proofs.Table.Ends
import Mathlib.Data.List.Basic

/-!
# Reading up to the first fault

Reading a table gives the records of all its rows or fails at the first row that makes none,
and the failure says where the rows in front of that row end. `read_first_fault`: the bytes up to
there read back as the records of those rows, the failure stands whatever comes behind the end of
the bad row, and a table that reads well still does when it is cut behind any of its rows.

A table enters only through what its rows make (`rowResults`), and what the rows through the end
of one of them make is seen from the bytes through that end (`rowResults_through_append`).
-/

namespace Abacus.History

open Table

/-- What each row of a table behind its header makes, in the order of the rows. -/
def rowResults (bytes : Bytes) : List (Except RowError Record) :=
  match rows bytes with
  | [] => []
  | header :: rows => results (.ofFields header.fields) header.fields.length rows

variable {bytes : Bytes} {records : List Record}

theorem read_eq_ok_iff :
    read bytes .finished = .ok records ↔ rowResults bytes = records.map .ok := by
  rw [read, wholeRows, rowResults]
  cases rows bytes with
  | nil =>
    rw [Except.ok.injEq, List.nil_eq, List.nil_eq, List.map_eq_nil_iff]
  | cons header rows => exact readRows_eq_ok_iff_results 2

variable {fault : RowError} {after : List (Except RowError Record)}

theorem read_eq_error (h : rowResults bytes = records.map .ok ++ .error fault :: after) :
    ∃ row, (rows bytes)[records.length + 1]? = some row ∧
      read bytes .finished =
        .error ⟨records.length + 2, .row (records.length + 1) row.start fault⟩ := by
  cases hrows : rows bytes with
  | nil =>
    rw [rowResults, hrows] at h
    simp at h
  | cons header others =>
    rw [rowResults, hrows] at h
    obtain ⟨row, hrow, hread⟩ := readRows_eq_error h .finished 2
    have hnumber : row.number = records.length + 1 := by
      have hget : (rows bytes)[records.length + 1]? = some row := hrows ▸ hrow
      exact number_of_rows hget
    refine ⟨row, hrow, ?_⟩
    rw [read, wholeRows, hrows]
    simp only [hread, hnumber, Nat.add_comm 2]

variable {i : Nat} {front : Bytes}

/-- What the rows through the end of one of them make is seen from the bytes through that end. -/
theorem rowResults_through_append (h : through? bytes i = some front) (other : Bytes) :
    ∃ header width place, rowResults (front ++ other) =
      (rowResults bytes).take i ++ results header width (rowsFrom (i + 1) place other) := by
  obtain ⟨place, hrows⟩ := rows_through_append h other
  cases hbytes : rows bytes with
  | nil =>
    rw [through?, hbytes] at h
    cases h
  | cons header others =>
    refine ⟨.ofFields header.fields, header.fields.length, place, ?_⟩
    rw [hbytes, List.take_succ_cons, List.cons_append] at hrows
    rw [rowResults, hrows, rowResults, hbytes]
    simp only [results, List.map_append, List.map_take]

theorem rowResults_through (h : through? bytes i = some front) :
    rowResults front = (rowResults bytes).take i := by
  obtain ⟨header, width, place, hresults⟩ := rowResults_through_append h []
  rwa [List.append_nil, rowsFrom_nil, results, List.map_nil, List.append_nil] at hresults

/-- A failure stands whatever comes behind the end of the bad row. -/
theorem read_through_append (h : rowResults bytes = records.map .ok ++ .error fault :: after)
    (hfront : through? bytes (records.length + 1) = some front) (other : Bytes) :
    read (front ++ other) .finished = read bytes .finished := by
  obtain ⟨row, hrow, hread⟩ := read_eq_error h
  have hcut : (rowResults bytes).take (records.length + 1) = records.map .ok ++ [.error fault] := by
    rw [h, List.append_cons]
    exact List.take_left' (by simp)
  obtain ⟨header, width, place, hresults⟩ := rowResults_through_append hfront other
  rw [hcut, List.append_assoc, List.singleton_append] at hresults
  obtain ⟨row', hrow', hread'⟩ := read_eq_error hresults
  rw [getElem?_rows_through hfront other, hrow] at hrow'
  cases hrow'
  rw [hread, hread']

/-- Whatever bytes are read, one of two things happens.
Either each row behind the header makes a record, and these records are what is read; cut behind
the end of the line of row `i`, the bytes read as the records of the rows up to it.
Or some rows make records and the row behind them does not, and reading fails there. The failure
names that row and the place where the row in front of it ended; the bytes up to that place read
as the records of the rows before; and if the bad row is read to its end, the failure is the same
whatever follows the end of its line. -/
theorem read_first_fault (bytes : Bytes) :
    (∃ records, read bytes .finished = .ok records ∧ rowResults bytes = records.map .ok ∧
      ∀ i row, (rows bytes)[i]? = some row → row.ended = true →
        ∃ front, through? bytes i = some front ∧ EndsLine front ∧
          read front .finished = .ok (records.take i)) ∨
    ∃ records fault after place,
      rowResults bytes = records.map .ok ++ .error fault :: after ∧
      (ends bytes)[records.length]? = some place ∧
      read bytes .finished =
        .error ⟨records.length + 2, .row (records.length + 1) place fault⟩ ∧
      read (bytes.take place.byte) .finished = .ok records ∧
      ∀ row, (rows bytes)[records.length + 1]? = some row → row.ended = true →
        ∃ front, through? bytes (records.length + 1) = some front ∧ EndsLine front ∧
          ∀ other, read (front ++ other) .finished = read bytes .finished := by
  rcases exists_first_fault (rowResults bytes) with ⟨records, h⟩ | ⟨records, fault, after, h⟩
  · refine .inl ⟨records, read_eq_ok_iff.2 h, h, fun i row hrow hended => ?_⟩
    obtain ⟨front, -, -, hthrough, -, hline, -⟩ := exists_through hrow hended
    refine ⟨front, hthrough, hline, read_eq_ok_iff.2 ?_⟩
    rw [rowResults_through hthrough, h, List.map_take]
  · obtain ⟨row, hrow, hread⟩ := read_eq_error h
    obtain ⟨-, -, -, hplace⟩ := start_of_rows hrow
    refine .inr ⟨records, fault, after, row.start, h, hplace, hread, ?_, ?_⟩
    · refine read_eq_ok_iff.2 ?_
      rw [rowResults_through (through?_of_start hrow), h]
      exact List.take_left' (List.length_map _)
    · intro row' hrow' hended
      obtain ⟨front, -, -, hthrough, -, hline, -⟩ := exists_through hrow' hended
      exact ⟨front, hthrough, hline, read_through_append h hthrough⟩

/-- A mark, carriage returns, an empty line and a line break in quotes: the third row has an
unknown operator, and byte 55 is where the second row ended. -/
theorem read_first_fault_operator :
    let bytes := byteOrderMark ++ Utf8.encode
      "operand1,operation,operand2,result\r\n\r\ninf,-,inf,NaN\r\n\"2\",^,\"1\n\",8\r\n".toList
    read bytes .finished = .error ⟨3, .row 2 ⟨3, 55⟩ (.value (.unknownOperator ['^']))⟩ ∧
      read (bytes.take 55) .finished = .ok [⟨.infinity false, .subtract, .infinity false, .nan⟩] ∧
      ∀ other, read (bytes.take 69 ++ other) .finished = read bytes .finished := by
  intro bytes
  have hresults : rowResults bytes =
      [.ok ⟨.infinity false, .subtract, .infinity false, .nan⟩,
        .error (.value (.unknownOperator ['^']))] := by decide +kernel
  have hends : (ends bytes)[1]? = some ⟨3, 55⟩ := by decide +kernel
  have hthrough : through? bytes 2 = some (bytes.take 69) := by decide +kernel
  obtain ⟨row, hrow, hended⟩ := exists_row_of_through hthrough
  rcases read_first_fault bytes with ⟨records, -, hrecords, -⟩ |
    ⟨records, fault, after, place, hrecords, hplace, hread, hbefore, hafter⟩
  · rw [hresults] at hrecords
    match records, hrecords with
    | record :: error :: records, hrecords => cases hrecords
  · rw [hresults] at hrecords
    match records, hrecords with
    | [record], hrecords =>
      cases hrecords
      obtain rfl := Option.some.inj (hends.symm.trans hplace)
      obtain ⟨front, hfront, -, hsame⟩ := hafter row hrow hended
      obtain rfl := Option.some.inj (hthrough.symm.trans hfront)
      exact ⟨hread, hbefore, hsame⟩
    | record :: error :: records, hrecords => cases hrecords

end Abacus.History
