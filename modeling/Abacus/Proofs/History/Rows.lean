import Abacus.History.Read

/-!
# Reading row by row

What a row makes under a header, a record or a fault, has nothing to do with the other rows:
`results` lists it for each of them. Rows that make records are read one after the other
(`readRows_append`). So reading gives the records of all rows if all make records
(`readRows_eq_ok_iff_results`), and otherwise fails at the first that makes none
(`readRows_eq_error`).
-/

namespace Abacus.History

open Table

/-- What each of some rows makes under a header of some width. -/
def results (header : Header) (width : Nat) (rows : List Row) : List (Except RowError Record) :=
  rows.map fun row => readRow header width row.fields

variable {header : Header} {width : Nat} {rows : List Row} {records : List Record}

/-- Rows that make records are read, and reading goes on behind them. -/
theorem readRows_append (h : results header width rows = records.map .ok) (ending : Ending)
    (line : Nat) (others : List Row) :
    readRows header width ending line (rows ++ others) =
      (readRows header width ending (line + records.length) others).map (records ++ ·) := by
  induction records generalizing rows line with
  | nil =>
    rw [List.map_nil, results, List.map_eq_nil_iff] at h
    subst h
    rw [List.nil_append, List.length_nil, Nat.add_zero]
    cases readRows header width ending line others <;> rfl
  | cons record records ih =>
    rw [List.map_cons, results, List.map_eq_cons_iff] at h
    obtain ⟨row, rows, rfl, hrow, hrows⟩ := h
    rw [List.cons_append, readRows, hrow]
    simp only [ih hrows]
    rw [List.length_cons, Nat.add_right_comm, Nat.add_assoc]
    cases readRows header width ending (line + (records.length + 1)) others <;> rfl

/-- What rows make is all records, or it is some records and then a fault. -/
theorem exists_first_fault (results : List (Except RowError Record)) :
    (∃ records : List Record, results = records.map .ok) ∨
      ∃ (records : List Record) (fault : RowError) (after : List (Except RowError Record)),
        results = records.map .ok ++ .error fault :: after := by
  induction results with
  | nil => exact .inl ⟨[], rfl⟩
  | cons result results ih =>
    cases result with
    | error fault => exact .inr ⟨[], fault, results, rfl⟩
    | ok record =>
      rcases ih with ⟨records, rfl⟩ | ⟨records, fault, after, rfl⟩
      · exact .inl ⟨record :: records, rfl⟩
      · exact .inr ⟨record :: records, fault, after, rfl⟩

/-- Reading fails at the first row that makes no record. -/
theorem readRows_eq_error {fault : RowError} {after : List (Except RowError Record)}
    (h : results header width rows = records.map .ok ++ .error fault :: after) (ending : Ending)
    (line : Nat) :
    ∃ row, rows[records.length]? = some row ∧
      readRows header width ending line rows =
        .error ⟨line + records.length, .row row.number row.start fault⟩ := by
  rw [results, List.map_eq_append_iff] at h
  obtain ⟨before, others, rfl, hbefore, hothers⟩ := h
  rw [List.map_eq_cons_iff] at hothers
  obtain ⟨row, others, rfl, hrow, -⟩ := hothers
  have hlength : before.length = records.length := by
    simpa using congrArg List.length hbefore
  refine ⟨row, ?_, ?_⟩
  · rw [← hlength, List.getElem?_append_right (Nat.le_refl _), Nat.sub_self, List.getElem?_cons_zero]
  · rw [readRows_append hbefore, readRows, hrow]
    rfl

/-- Reading gives records exactly if they are what the rows make. -/
theorem readRows_eq_ok_iff_results (line : Nat) :
    readRows header width .finished line rows = .ok records ↔
      results header width rows = records.map .ok := by
  constructor
  · intro h
    rcases exists_first_fault (results header width rows) with
      ⟨others, hothers⟩ | ⟨others, fault, after, hothers⟩
    · rw [← rows.append_nil, readRows_append hothers, readRows] at h
      obtain rfl : others = records := by simpa [Except.map] using h
      exact hothers
    · obtain ⟨row, -, herror⟩ := readRows_eq_error hothers .finished line
      rw [herror] at h
      cases h
  · intro h
    rw [← rows.append_nil, readRows_append h, readRows]
    exact congrArg Except.ok records.append_nil

end Abacus.History
