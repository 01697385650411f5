import Abacus.Proofs.Table.Rendering
import Abacus.Proofs.Text.Split

/-!
# Tables without quotes

Where no field needs quotes, a table can be written with nothing but commas and line feeds between
its fields (`rowsText_written`). Then it can be read without the rules of tables as well, by cutting
at line feeds and then at commas: `splitFields_written`.
-/

namespace Abacus.Table

/-- Every row has two or more fields, and no field needs quotes. -/
def IsBare (table : List (List Bytes)) : Prop :=
  ∀ fields ∈ table, 2 ≤ fields.length ∧ ∀ field ∈ fields, CanStandBare field

/-- A table written without quotes, each line with its line feed. -/
def written (table : List (List Bytes)) : Bytes :=
  (table.map [comma].intercalate).flatMap (· ++ [lineFeed])

variable {fields : List Bytes} {table : List (List Bytes)}

theorem written_cons (fields : List Bytes) (table : List (List Bytes)) :
    written (fields :: table) = [comma].intercalate fields ++ [lineFeed] ++ written table := by
  rw [written, List.map_cons, List.flatMap_cons]
  rfl

theorem written_append (first second : List (List Bytes)) :
    written (first ++ second) = written first ++ written second := by
  rw [written, List.map_append, List.flatMap_append]
  rfl

theorem getLast?_written (h : table ≠ []) : (written table).getLast? = some lineFeed :=
  getLast?_flatMap (mt List.map_eq_nil_iff.1 h)

/-! ## The rules of tables -/

theorem recordText_bare (hne : fields ≠ []) (h : ∀ field ∈ fields, CanStandBare field) :
    RecordText fields ([comma].intercalate fields) := by
  induction fields with
  | nil => exact absurd rfl hne
  | cons field fields ih =>
    obtain ⟨hfield, hfields⟩ := List.forall_mem_cons.1 h
    cases fields with
    | nil =>
      rw [List.intercalate_singleton]
      exact .last (.bare hfield)
    | cons next fields =>
      rw [List.intercalate_cons_cons, List.append_assoc]
      exact .cons (.bare hfield) (ih (List.cons_ne_nil next fields) hfields)

/-- A table without quotes is one of the ways to write its rows. -/
theorem rowsText_written (h : IsBare table) : RowsText table (written table) := by
  induction table with
  | nil => exact .nil
  | cons fields table ih =>
    obtain ⟨⟨hlength, hbare⟩, htable⟩ := List.forall_mem_cons.1 h
    have hrecord := recordText_bare (List.ne_nil_of_length_pos (by omega)) hbare
    have hne := intercalate_ne_nil (List.cons_ne_nil comma []) hlength
    rw [written_cons, List.append_assoc]
    exact .row hrecord hne .feed (ih htable)

/-! ## Cutting alone -/

/-- The lines in front of line feeds. -/
def wholeLines (bytes : Bytes) : List Bytes :=
  (bytes.splitOn lineFeed).dropLast

/-- The fields of the lines, if nothing but line feeds and commas counts. -/
def splitFields (bytes : Bytes) : List (List Bytes) :=
  (wholeLines bytes).map (List.splitOn comma)

/-- What stands behind the first line feed. -/
def afterFirstLine (bytes : Bytes) : Bytes :=
  (bytes.dropWhile (· ≠ lineFeed)).drop 1

theorem comma_notMem {field : Bytes} (h : CanStandBare field) : comma ∉ field :=
  fun hmem => (h.1 comma hmem).1 rfl

theorem lineFeed_notMem {field : Bytes} (h : CanStandBare field) : lineFeed ∉ field := by
  intro hmem
  have hend := (h.1 lineFeed hmem).2
  cases hend

theorem lineFeed_notMem_line (h : ∀ field ∈ fields, CanStandBare field) :
    lineFeed ∉ [comma].intercalate fields := by
  intro hmem
  obtain hfeed | ⟨field, hfield, hfeed⟩ := mem_or_of_mem_intercalate hmem
  · cases List.mem_singleton.1 hfeed
  · exact lineFeed_notMem (h field hfield) hfeed

/-- The line feeds of a table without quotes are the ends of its lines. -/
theorem splitOn_written (h : IsBare table) :
    (written table).splitOn lineFeed = table.map [comma].intercalate ++ [[]] := by
  have hlines : ∀ line ∈ table.map [comma].intercalate, lineFeed ∉ line :=
    List.forall_mem_map.2 fun fields hfields => lineFeed_notMem_line (h fields hfields).2
  rw [written, ← splitOn_flatMap hlines List.not_mem_nil, List.append_nil]

theorem wholeLines_written (h : IsBare table) :
    wholeLines (written table) = table.map [comma].intercalate := by
  rw [wholeLines, splitOn_written h, List.dropLast_concat]

/-- The commas of a line without quotes stand between its fields. -/
theorem splitOn_line (h : IsBare table) (hfields : fields ∈ table) :
    ([comma].intercalate fields).splitOn comma = fields := by
  obtain ⟨hlength, hbare⟩ := h fields hfields
  exact List.splitOn_intercalate comma (fun field hfield => comma_notMem (hbare field hfield))
    (List.ne_nil_of_length_pos (by omega))

/-- A table without quotes is found by cutting alone. -/
theorem splitFields_written (h : IsBare table) : splitFields (written table) = table := by
  rw [splitFields, wholeLines_written h, List.map_map]
  exact (List.map_congr_left fun _ => splitOn_line h).trans (List.map_id' table)

theorem count_lineFeed_written (h : IsBare table) :
    (written table).count lineFeed = table.length := by
  have hlength := length_splitOn lineFeed (written table)
  rw [splitOn_written h, List.length_append, List.length_map] at hlength
  exact (Nat.add_right_cancel hlength).symm

/-- A line without quotes has one comma less than it has fields. -/
theorem count_comma_line (h : IsBare table) (hfields : fields ∈ table) :
    ([comma].intercalate fields).count comma + 1 = fields.length := by
  rw [← length_splitOn, splitOn_line h hfields]

theorem afterFirstLine_written (h : ∀ field ∈ fields, CanStandBare field)
    (table : List (List Bytes)) : afterFirstLine (written (fields :: table)) = written table := by
  have hline : ∀ b ∈ [comma].intercalate fields, decide (b ≠ lineFeed) = true := fun b hb =>
    decide_eq_true fun hfeed => lineFeed_notMem_line h (hfeed ▸ hb)
  rw [afterFirstLine, written_cons, List.append_assoc, List.dropWhile_append_of_pos hline]
  rfl

end Abacus.Table
