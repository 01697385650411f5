import Abacus.Proofs.History.BrokenStream
import Abacus.Proofs.Table.Lines

/-!
# The line of a failure

A failure at a row gives a line, and it counts rows: the header is in line 1, and every row behind
it is one line further. `read_error_line` compares that with the line of the table on which the row
starts. The row never starts earlier than it is said to. It starts later by the empty lines in front
of it and of the rows before, and by the line breaks that the rows before have in quotes, and so the
line is right exactly if there are none of either.
-/

namespace Abacus.History

open Table

variable {bytes : Bytes} {error : ReadError} {number : Nat} {start : Position} {fault : RowError}

/-! ## The row of a failure -/

theorem exists_row_of_read_finished (h : read bytes .finished = .error error)
    (hcause : error.cause = .row number start fault) :
    error.line = number + 1 ∧ ∃ row, (rows bytes)[number]? = some row ∧ row.start = start := by
  rcases exists_first_fault (rowResults bytes) with ⟨records, hresults⟩ |
    ⟨records, fault', after, hresults⟩
  · rw [read_eq_ok_iff.2 hresults] at h
    cases h
  · obtain ⟨row, hrow, hread⟩ := read_eq_error hresults
    rw [hread] at h
    cases h
    cases hcause
    exact ⟨rfl, row, hrow, rfl⟩

/-- However the stream ends, a failure at a row names a row of the table, and its line is the number
of that row among the rows. -/
theorem exists_row_of_read_error {ending : Ending} (h : read bytes ending = .error error)
    (hcause : error.cause = .row number start fault) :
    error.line = number + 1 ∧ ∃ row, (rows bytes)[number]? = some row ∧ row.start = start := by
  cases ending with
  | finished => exact exists_row_of_read_finished h hcause
  | broken reason =>
    rcases read_broken bytes reason with ⟨-, hread⟩ | ⟨i, front, hfront, -, hread⟩
    · rw [hread] at h
      cases h
    rcases hread with ⟨records, -, hread⟩ | ⟨error', hread, hbroken⟩
    · rw [hread] at h
      cases h
      cases hcause
    · rw [hbroken] at h
      cases h
      obtain ⟨hline, row, hrow, hstart⟩ := exists_row_of_read_finished hread hcause
      -- The rows of the part that arrived whole are rows of all that arrived.
      obtain ⟨place, hrows⟩ := rows_through_append hfront []
      rw [List.append_nil, rowsFrom_nil, List.append_nil] at hrows
      rw [hrows, List.getElem?_take] at hrow
      split at hrow
      · exact ⟨hline, row, hrow, hstart⟩
      · cases hrow

/-! ## Its line -/

theorem excess_eq_zero_iff {table : List Row} :
    excess bytes table = 0 ↔ ∀ row ∈ table, emptyLines bytes row = 0 ∧
      ∀ field ∈ row.fields, ∀ b ∈ field, isLineEnd b = false := by
  induction table with
  | nil => simp [excess]
  | cons row table ih =>
    rw [excess, Nat.add_eq_zero_iff, Nat.add_eq_zero_iff, lineBreaks_eq_zero_iff, ih,
      List.forall_mem_cons]

/-- What the line of a failure at a row says. It is the number of the row among the rows, the header
being the first. The row starts on that line of the table or later: by as many lines as are empty in
front of it and of the rows before it, and as the rows before it break in their fields. So it is the
line on which the row starts exactly if there are no such lines. -/
theorem read_error_line {ending : Ending} (h : read bytes ending = .error error)
    (hcause : error.cause = .row number start fault) :
    error.message = "Invalid history row at line ".toList ++ toDigits (number + 1) ∧
      ∃ row, (rows bytes)[number]? = some row ∧ row.start = start ∧
        physicalLine bytes row = error.line +
          (excess bytes ((rows bytes).take number) + emptyLines bytes row) ∧
        (error.line = physicalLine bytes row ↔ emptyLines bytes row = 0 ∧
          ∀ before ∈ (rows bytes).take number, emptyLines bytes before = 0 ∧
            ∀ field ∈ before.fields, ∀ b ∈ field, isLineEnd b = false) := by
  obtain ⟨hline, row, hrow, hstart⟩ := exists_row_of_read_error h hcause
  have hphysical := physicalLine_eq hrow
  rw [← hline] at hphysical
  refine ⟨congrArg ("Invalid history row at line ".toList ++ toDigits ·) hline, row, hrow, hstart,
    hphysical, ?_⟩
  rw [hphysical, ← excess_eq_zero_iff]
  omega

/-- An empty line and a line break in a note: the bad row starts on line 5 and is said to be at
line 3. -/
theorem read_error_line_note :
    let bytes := Utf8.encode
      "operand1,operation,operand2,result,note\r\n\r\n1,+,2,3,\"a\nb\"\r\n1,^,2,3,c\r\n".toList
    ∃ row, (rows bytes)[2]? = some row ∧
      read bytes .finished = .error ⟨3, .row 2 row.start (.value (.unknownOperator ['^']))⟩ ∧
      excess bytes ((rows bytes).take 2) + emptyLines bytes row = 2 ∧
      physicalLine bytes row = 5 := by
  intro bytes
  have hread : read bytes .finished =
      .error ⟨3, .row 2 ⟨4, 57⟩ (.value (.unknownOperator ['^']))⟩ := by decide +kernel
  obtain ⟨-, row, hrow, hstart, hphysical, -⟩ := read_error_line hread rfl
  have hline : physicalLine bytes row = 5 := by
    rw [physicalLine, firstByte, hstart]
    decide +kernel
  rw [hline] at hphysical
  exact ⟨row, hrow, hstart ▸ hread, (Nat.add_left_cancel hphysical).symm, hline⟩

/-- An empty line behind the header: the bad row starts on line 3 and is said to be at line 2. -/
theorem read_empty_line :
    let bytes := Utf8.encode "operand1,operation,operand2,result\n\n1,^,2,3\n".toList
    ∃ error row, read bytes .finished = .error error ∧
      error.message = "Invalid history row at line 2".toList ∧
      error.cause = .row 1 row.start (.value (.unknownOperator ['^'])) ∧
      (rows bytes)[1]? = some row ∧ physicalLine bytes row = 3 := by
  intro bytes
  have hread : read bytes .finished =
      .error ⟨2, .row 1 ⟨2, 35⟩ (.value (.unknownOperator ['^']))⟩ := by decide +kernel
  obtain ⟨-, row, hrow, hstart⟩ := exists_row_of_read_error hread rfl
  refine ⟨_, row, hread, by decide +kernel, by rw [hstart], hrow, ?_⟩
  rw [physicalLine, firstByte, hstart]
  decide +kernel

end Abacus.History
