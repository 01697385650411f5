import Abacus.Proofs.History.Recovery

/-!
# Reading from a stream that breaks

Of a stream that breaks, the rows that were read to their end are read as if nothing followed, and
the break is an error behind them (`readRows_broken`). Whole rows come first, since only the last
row can be without its end (`exists_through_of_le`). The header is the exception: if the stream
breaks before its end there is nothing to read and the break goes unnoticed, and `read_broken`
says that this happens in no other case.
-/

namespace Abacus.History

open Table

variable {bytes : Bytes}

/-! ## Whole rows -/

/-- The rows in front of a whole row are whole. -/
theorem exists_through_of_le {i j : Nat} {front : Bytes} (h : through? bytes j = some front)
    (hle : i ≤ j) : ∃ front', through? bytes i = some front' := by
  induction hle generalizing front with
  | refl => exact ⟨front, h⟩
  | step _ ih =>
    obtain ⟨row, hrow, -⟩ := exists_row_of_through h
    exact ih (through?_of_start hrow)

theorem through?_length (bytes : Bytes) : through? bytes (rows bytes).length = none := by
  simp [through?]

/-- A whole row of the list is whole in its place. -/
theorem exists_through_getElem {j : Nat} (hj : j < (rows bytes).length)
    (hended : (rows bytes)[j].ended = true) : ∃ front, through? bytes j = some front := by
  obtain ⟨front, -, -, hfront, -⟩ := exists_through (List.getElem?_eq_getElem hj) hended
  exact ⟨front, hfront⟩

/-- The whole rows are those that are read from the bytes through the last of them. -/
theorem filter_ended_rows {i : Nat} {front : Bytes} (h : through? bytes i = some front)
    (hlast : through? bytes (i + 1) = none) :
    (rows bytes).filter (·.ended) = rows front := by
  obtain ⟨place, hrows⟩ := rows_through_append h []
  rw [List.append_nil, rowsFrom_nil, List.append_nil] at hrows
  have hbefore : ∀ row ∈ (rows bytes).take (i + 1), row.ended = true := by
    intro row hrow
    obtain ⟨j, hj, rfl⟩ := List.mem_take_iff_getElem.1 hrow
    obtain ⟨front', hfront⟩ := exists_through_of_le h (i := j) (by omega)
    obtain ⟨row, hget, hended⟩ := exists_row_of_through hfront
    rw [List.getElem?_eq_getElem (by omega), Option.some.injEq] at hget
    rw [hget, hended]
  have hafter : ∀ row ∈ (rows bytes).drop (i + 1), ¬row.ended = true := by
    intro row hrow hended
    obtain ⟨j, hj, rfl⟩ := List.mem_drop_iff_getElem.1 hrow
    obtain ⟨front', hfront⟩ := exists_through_getElem _ hended
    obtain ⟨front'', hnext⟩ := exists_through_of_le hfront (i := i + 1) (by omega)
    rw [hlast] at hnext
    cases hnext
  rw [hrows, ← List.take_append_drop (i + 1) (rows bytes), List.filter_append,
    List.filter_eq_self.2 hbefore, List.filter_eq_nil_iff.2 hafter, List.append_nil]
  simp

/-- Without the end of the header no row is whole. -/
theorem filter_ended_rows_eq_nil (h : through? bytes 0 = none) :
    (rows bytes).filter (·.ended) = [] := by
  refine List.filter_eq_nil_iff.2 fun row hrow hended => ?_
  obtain ⟨j, hj, rfl⟩ := List.mem_iff_getElem.1 hrow
  obtain ⟨front, hfront⟩ := exists_through_getElem hj hended
  obtain ⟨front', hheader⟩ := exists_through_of_le hfront (Nat.zero_le j)
  rw [h] at hheader
  cases hheader

/-- With the end of the header there is a last whole row. -/
theorem exists_last_through {front : Bytes} (h : through? bytes 0 = some front) :
    ∃ i front', through? bytes i = some front' ∧ through? bytes (i + 1) = none := by
  by_contra hnone
  have hall : ∀ i, ∃ front', through? bytes i = some front' := by
    intro i
    induction i with
    | zero => exact ⟨front, h⟩
    | succ i ih =>
      obtain ⟨front', hfront⟩ := ih
      refine Option.ne_none_iff_exists'.1 fun hnext => hnone ⟨i, front', hfront, hnext⟩
  obtain ⟨front', hfront⟩ := hall (rows bytes).length
  rw [through?_length] at hfront
  cases hfront

/-! ## The break -/

variable (reason : Text)

/-- The break is an error behind the rows, if they are read at all. -/
theorem readRows_broken (header : Header) (width line : Nat) (rows : List Row) :
    readRows header width (.broken reason) line rows =
      match readRows header width .finished line rows with
      | .ok records => .error ⟨line + records.length, .stream reason⟩
      | .error error => .error error := by
  induction rows generalizing line with
  | nil => rfl
  | cons row rows ih =>
    rw [readRows, readRows]
    cases readRow header width row.fields with
    | error error => rfl
    | ok record =>
      simp only [ih]
      cases readRows header width .finished (line + 1) rows with
      | error error => rfl
      | ok records => simp [Except.map, Nat.add_assoc, Nat.add_comm 1]

/-- Whole rows are read as if nothing followed them, and then comes the break. -/
theorem read_broken_of_through {i : Nat} {front : Bytes} (h : through? bytes i = some front)
    (hlast : through? bytes (i + 1) = none) :
    read bytes (.broken reason) =
      match read front .finished with
      | .ok records => .error ⟨records.length + 2, .stream reason⟩
      | .error error => .error error := by
  obtain ⟨row, hrow, -⟩ := exists_row_of_through h
  have hget := getElem?_rows_through h []
  rw [List.append_nil, hrow] at hget
  simp only [read, wholeRows, filter_ended_rows h hlast]
  cases hrows : rows front with
  | nil => simp [hrows] at hget
  | cons header others => simp only [readRows_broken, Nat.add_comm 2]

theorem read_broken_of_headless (h : through? bytes 0 = none) :
    read bytes (.broken reason) = .ok [] := by
  simp [read, wholeRows, filter_ended_rows_eq_nil h]

/-- A stream that breaks gives no records. -/
theorem eq_nil_of_read_broken {records : List Record}
    (h : read bytes (.broken reason) = .ok records) : records = [] := by
  cases hheader : through? bytes 0 with
  | none => simpa [read_broken_of_headless reason hheader, eq_comm] using h
  | some front =>
    obtain ⟨i, front', hfront, hlast⟩ := exists_last_through hheader
    rw [read_broken_of_through reason hfront hlast] at h
    split at h <;> cases h

/-- What is read from a stream that breaks, wherever it does.
Either it breaks before the end of the header: then nothing is read, and that is no error.
Or some row `i` is the last one that was read to its end: then the bytes through its end are read
like a finished stream, and if they give records the break is an error at the row behind them. -/
theorem read_broken (bytes : Bytes) (reason : Text) :
    (through? bytes 0 = none ∧ read bytes (.broken reason) = .ok []) ∨
      ∃ i front, through? bytes i = some front ∧ through? bytes (i + 1) = none ∧
        ((∃ records, read front .finished = .ok records ∧
            read bytes (.broken reason) = .error ⟨records.length + 2, .stream reason⟩) ∨
          ∃ error, read front .finished = .error error ∧
            read bytes (.broken reason) = .error error) := by
  cases hheader : through? bytes 0 with
  | none => exact .inl ⟨rfl, read_broken_of_headless reason hheader⟩
  | some front =>
    obtain ⟨i, front', hfront, hlast⟩ := exists_last_through hheader
    have hread := read_broken_of_through reason hfront hlast
    refine .inr ⟨i, front', hfront, hlast, ?_⟩
    cases hfinished : read front' .finished with
    | ok records => exact .inl ⟨records, rfl, by simpa [hfinished] using hread⟩
    | error error => exact .inr ⟨error, rfl, by simpa [hfinished] using hread⟩

/-- The whole header arrives but for the end of its line, and the break goes unnoticed. -/
theorem read_broken_header :
    read (Utf8.encode "operand1,operation,operand2,result".toList)
      (.broken "stdin went away".toList) = .ok [] := by decide +kernel

end Abacus.History
