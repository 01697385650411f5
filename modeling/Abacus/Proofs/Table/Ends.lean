import Abacus.Proofs.Table.Rendering

/-!
# Ends of rows

The scanner knows that a row has ended when it has read the end of its line, one byte, and does
not look further. `ends` lists the places behind the rows: each row starts where the one before it
ended (`start_of_rows`). What stands behind the end of a row has no part in the rows up to it:
`through? bytes i` are the bytes through the end of row `i`, and in front of any others they are
read as the same rows (`rows_through_append`).

One row is `exists_front_of_scan`, by induction on its bytes; all rows up to one are
`exists_front_of_rowsFrom`, by induction on their number. A mark in front of the table stays there
when the bytes behind an end are exchanged, and none comes to be there, because no byte of a mark
ends a line (`EndsLine.unmarked`).
-/

namespace Abacus.Table

/-! ## The places -/

/-- The places behind the rows from a place on. -/
def endsFrom (start : Position) (bytes : Bytes) : List Position :=
  match _h : scan .rowStart [] [] start bytes with
  | none => []
  | some cut => cut.next :: endsFrom cut.next cut.rest
termination_by bytes.length
decreasing_by
  cases bytes with
  | nil => simp [scan] at _h
  | cons b rest => exact Nat.lt_succ_of_le (length_rest_scan_le _h)

/-- The places behind the rows of a table. -/
def ends (bytes : Bytes) : List Position :=
  if byteOrderMark <+: bytes then endsFrom ⟨1, 3⟩ (bytes.drop 3) else endsFrom ⟨1, 0⟩ bytes

variable {start : Position} {bytes : Bytes}

theorem endsFrom_of_scan {cut : Cut} (h : scan .rowStart [] [] start bytes = some cut) :
    endsFrom start bytes = cut.next :: endsFrom cut.next cut.rest := by
  rw [endsFrom]
  split
  · next hnone =>
    rw [h] at hnone
    cases hnone
  · next cut' hcut =>
    rw [h, Option.some.injEq] at hcut
    subst hcut
    rfl

/-! ## One row -/

/-- Some bytes that end a line. -/
def EndsLine (front : Bytes) : Prop :=
  ∃ text b, front = text ++ [b] ∧ isLineEnd b = true

theorem EndsLine.append {second : Bytes} (h : EndsLine second) (first : Bytes) :
    EndsLine (first ++ second) := by
  obtain ⟨text, b, rfl, hb⟩ := h
  exact ⟨first ++ text, b, (List.append_assoc first text [b]).symm, hb⟩

theorem isLineEnd_of_bareAction {b : UInt8} (h : bareAction b = .endRow) : isLineEnd b = true := by
  rw [bareAction] at h
  split at h
  · cases h
  · split at h
    · assumption
    · cases h

theorem isLineEnd_of_openAction {b : UInt8} (h : openAction b = .endRow) : isLineEnd b = true := by
  rw [openAction] at h
  split at h
  · cases h
  · exact isLineEnd_of_bareAction h

/-- Nothing but the end of a line ends a row. -/
theorem isLineEnd_of_action {mode : Mode} {b : UInt8} (h : action mode b = .endRow) :
    isLineEnd b = true := by
  cases mode with
  | rowStart =>
    rw [action] at h
    split at h
    · cases h
    · exact isLineEnd_of_openAction h
  | fieldStart => exact isLineEnd_of_openAction h
  | bare => exact isLineEnd_of_bareAction h
  | quoted =>
    rw [action] at h
    split at h <;> cases h
  | closing =>
    rw [action] at h
    split at h
    · cases h
    · exact isLineEnd_of_bareAction h

/-- A byte that does not end the row takes the scanner one place on, whatever follows. -/
theorem exists_scan_cons {mode : Mode} {b : UInt8} (h : action mode b ≠ .endRow) (field : Bytes)
    (fields : List Bytes) (p : Position) :
    ∃ mode' field' fields', ∀ rest,
      scan mode field fields p (b :: rest) = scan mode' field' fields' (p.after b) rest := by
  cases haction : action mode b with
  | skip mode' => exact ⟨mode', field, fields, scan_skip haction field fields p⟩
  | keep mode' => exact ⟨mode', b :: field, fields, scan_keep haction field fields p⟩
  | endField =>
    exact ⟨.fieldStart, [], field.reverse :: fields, scan_endField haction field fields p⟩
  | endRow => exact absurd haction h

variable {mode : Mode} {field : Bytes} {fields : List Bytes} {p : Position} {cut : Cut}

/-- Only the last row can be without its end. -/
theorem rest_eq_nil_of_scan (h : scan mode field fields p bytes = some cut)
    (hended : cut.ended = false) : cut.rest = [] := by
  induction bytes generalizing mode field fields p with
  | nil =>
    rw [scan] at h
    split at h
    · cases h
    · cases h
      rfl
  | cons b rest ih =>
    by_cases haction : action mode b = .endRow
    · rw [scan_endRow haction] at h
      cases h
      cases hended
    · obtain ⟨mode', field', fields', hscan⟩ := exists_scan_cons haction field fields p
      exact ih (hscan rest ▸ h)

/-- A row that is read to its end is read from the bytes up to there alone. -/
theorem exists_front_of_scan (h : scan mode field fields p bytes = some cut)
    (hended : cut.ended = true) :
    ∃ front, EndsLine front ∧ bytes = front ++ cut.rest ∧ cut.next = p.behind front ∧
      ∀ other, scan mode field fields p (front ++ other) =
        some ⟨cut.fields, true, cut.next, other⟩ := by
  induction bytes generalizing mode field fields p with
  | nil =>
    rw [scan] at h
    split at h
    · cases h
    · cases h
      cases hended
  | cons b rest ih =>
    by_cases haction : action mode b = .endRow
    · rw [scan_endRow haction] at h
      cases h
      exact ⟨[b], ⟨[], b, rfl, isLineEnd_of_action haction⟩, rfl, rfl,
        scan_endRow haction field fields p⟩
    · obtain ⟨mode', field', fields', hscan⟩ := exists_scan_cons haction field fields p
      obtain ⟨front, hline, hbytes, hnext, hfront⟩ := ih (hscan rest ▸ h)
      refine ⟨b :: front, hline.append [b], congrArg (b :: ·) hbytes, hnext, fun other => ?_⟩
      rw [List.cons_append, hscan, hfront]

/-! ## All rows from a place on -/

/-- A row of the list is the first one, or one of those behind it. -/
theorem exists_cut_of_getElem? {number i : Nat} {row : Row}
    (h : (rowsFrom number start bytes)[i]? = some row) :
    ∃ cut, scan .rowStart [] [] start bytes = some cut ∧
      (⟨number, start, cut.fields, cut.ended⟩ :: rowsFrom (number + 1) cut.next cut.rest)[i]? =
        some row := by
  cases hscan : scan .rowStart [] [] start bytes with
  | none =>
    rw [rowsFrom_of_scan_none hscan] at h
    cases h
  | some cut =>
    rw [rowsFrom_of_scan hscan] at h
    exact ⟨cut, rfl, h⟩

/-- A row with another behind it is read to its end. -/
theorem ended_of_getElem? (h : scan mode field fields p bytes = some cut) {number i : Nat}
    {row : Row} (hrow : (rowsFrom number cut.next cut.rest)[i]? = some row) :
    cut.ended = true := by
  refine Bool.of_not_eq_false fun hended => ?_
  rw [rest_eq_nil_of_scan h hended, rowsFrom_nil] at hrow
  cases hrow

/-- Where the scanner is behind a row. -/
theorem exists_scan_of_getElem? {number i : Nat} {row : Row}
    (h : (rowsFrom number start bytes)[i]? = some row) :
    ∃ rest cut, scan .rowStart [] [] row.start rest = some cut ∧ row.number = number + i ∧
      row.ended = cut.ended ∧ (endsFrom start bytes)[i]? = some cut.next ∧
      (rowsFrom number start bytes).drop (i + 1) =
        rowsFrom (number + (i + 1)) cut.next cut.rest := by
  induction i generalizing start bytes number with
  | zero =>
    obtain ⟨cut, hscan, hrow⟩ := exists_cut_of_getElem? h
    obtain rfl := Option.some.inj hrow
    refine ⟨bytes, cut, hscan, rfl, rfl, ?_, ?_⟩
    · rw [endsFrom_of_scan hscan]
      rfl
    · rw [rowsFrom_of_scan hscan]
      rfl
  | succ i ih =>
    obtain ⟨first, hfirst, hrow⟩ := exists_cut_of_getElem? h
    obtain ⟨rest, cut, hscan, hnumber, hended, hplace, hdrop⟩ := ih hrow
    refine ⟨rest, cut, hscan, ?_, hended, ?_, ?_⟩
    · rw [hnumber, Nat.add_right_comm, Nat.add_assoc]
    · rw [endsFrom_of_scan hfirst, List.getElem?_cons_succ, hplace]
    · rw [rowsFrom_of_scan hfirst, List.drop_succ_cons, hdrop, Nat.add_right_comm number 1,
        Nat.add_assoc number]

/-- A row starts where the row before it ended, and that one was read to its end. -/
theorem start_getElem? {number i : Nat} {row next : Row}
    (h : (rowsFrom number start bytes)[i]? = some row)
    (hnext : (rowsFrom number start bytes)[i + 1]? = some next) :
    row.ended = true ∧ (endsFrom start bytes)[i]? = some next.start := by
  obtain ⟨rest, cut, hscan, -, hended, hplace, hdrop⟩ := exists_scan_of_getElem? h
  rw [← Nat.add_zero (i + 1), ← List.getElem?_drop, hdrop] at hnext
  refine ⟨hended.trans (ended_of_getElem? hscan hnext), ?_⟩
  obtain ⟨cut', -, hrow⟩ := exists_cut_of_getElem? hnext
  obtain rfl := Option.some.inj hrow
  exact hplace

/-- The rows up to one that is read to its end are read from the bytes up to there alone, and
the rest is read on from that place. -/
theorem exists_front_of_rowsFrom {number i : Nat} {row : Row}
    (h : (rowsFrom number start bytes)[i]? = some row) (hended : row.ended = true) :
    ∃ front rest, EndsLine front ∧ bytes = front ++ rest ∧
      (endsFrom start bytes)[i]? = some (start.behind front) ∧
      ∀ other, rowsFrom number start (front ++ other) =
        (rowsFrom number start bytes).take (i + 1) ++
          rowsFrom (number + (i + 1)) (start.behind front) other := by
  induction i generalizing start bytes number with
  | zero =>
    obtain ⟨cut, hscan, hrow⟩ := exists_cut_of_getElem? h
    obtain rfl := Option.some.inj hrow
    obtain ⟨front, hline, hbytes, hnext, hfront⟩ := exists_front_of_scan hscan hended
    refine ⟨front, cut.rest, hline, hbytes, ?_, fun other => ?_⟩
    · rw [endsFrom_of_scan hscan, hnext]
      rfl
    · have hended : cut.ended = true := hended
      rw [rowsFrom_of_scan (hfront other), rowsFrom_of_scan hscan, hended, hnext]
      rfl
  | succ i ih =>
    obtain ⟨cut, hscan, hrow⟩ := exists_cut_of_getElem? h
    have hcut : cut.ended = true := ended_of_getElem? hscan hrow
    obtain ⟨first, -, hbytes, hnext, hfirst⟩ := exists_front_of_scan hscan hcut
    obtain ⟨second, rest, hline, hrest, hplace, hsecond⟩ := ih hrow
    rw [hnext, ← behind_append] at hplace hsecond
    refine ⟨first ++ second, rest, hline.append first, ?_, ?_, fun other => ?_⟩
    · rw [hbytes, hrest, List.append_assoc]
    · rw [endsFrom_of_scan hscan, List.getElem?_cons_succ, hnext, hplace]
    · rw [List.append_assoc, rowsFrom_of_scan (hfirst (second ++ other)), rowsFrom_of_scan hscan,
        hcut, hnext, hsecond, List.take_succ_cons, List.cons_append, Nat.add_right_comm number 1,
        Nat.add_assoc number]

/-! ## All rows of a table -/

theorem byte_behind (p : Position) (bytes : Bytes) :
    (p.behind bytes).byte = p.byte + bytes.length := by
  induction bytes generalizing p with
  | nil => rfl
  | cons b rest ih =>
    rw [show p.behind (b :: rest) = (p.after b).behind rest from rfl, ih, List.length_cons]
    exact Nat.add_right_comm p.byte 1 rest.length

/-- What follows the end of a line makes no mark in front of a table. -/
theorem EndsLine.unmarked {front rest : Bytes} (hline : EndsLine front)
    (h : ¬byteOrderMark <+: front ++ rest) (other : Bytes) : ¬byteOrderMark <+: front ++ other := by
  intro hother
  obtain ⟨text, b, rfl, hb⟩ := hline
  rcases List.prefix_or_prefix_of_prefix hother (List.prefix_append (text ++ [b]) other) with
    hmark | hmark
  · exact h (hmark.trans (List.prefix_append (text ++ [b]) rest))
  · have hmem : b ∈ text ++ [b] := List.mem_append_right text List.mem_cons_self
    exact notMem_byteOrderMark_of_isLineEnd hb (hmark.subset hmem)

/-- A table is read behind its mark, and still is if what follows the end of a line is
exchanged. -/
theorem exists_mark (bytes : Bytes) :
    ∃ mark body, bytes = mark ++ body ∧ rows bytes = rowsFrom 0 ⟨1, mark.length⟩ body ∧
      ends bytes = endsFrom ⟨1, mark.length⟩ body ∧
      ∀ front rest, body = front ++ rest → EndsLine front → ∀ other,
        rows (mark ++ (front ++ other)) = rowsFrom 0 ⟨1, mark.length⟩ (front ++ other) := by
  by_cases hmark : byteOrderMark <+: bytes
  · obtain ⟨body, rfl⟩ := hmark
    refine ⟨byteOrderMark, body, rfl, rfl, ?_, fun _ _ _ _ _ => rfl⟩
    rw [ends, if_pos (List.prefix_append byteOrderMark body)]
    rfl
  · refine ⟨[], bytes, rfl, rows_of_unmarked hmark, if_neg hmark, ?_⟩
    rintro front rest rfl hline other
    exact rows_of_unmarked (hline.unmarked hmark other)

variable {i : Nat} {row : Row}

/-- Rows are numbered from 0. -/
theorem number_of_rows (h : (rows bytes)[i]? = some row) : row.number = i := by
  obtain ⟨mark, body, -, hrows, -, -⟩ := exists_mark bytes
  rw [hrows] at h
  obtain ⟨-, -, -, hnumber, -, -, -⟩ := exists_scan_of_getElem? h
  rw [hnumber, Nat.zero_add]

/-- A row starts where the row before it ended, and that one was read to its end. -/
theorem start_of_rows (h : (rows bytes)[i + 1]? = some row) :
    ∃ before, (rows bytes)[i]? = some before ∧ before.ended = true ∧
      (ends bytes)[i]? = some row.start := by
  obtain ⟨mark, body, -, hrows, hends, -⟩ := exists_mark bytes
  obtain ⟨hlt, -⟩ := List.getElem?_eq_some_iff.1 h
  have hbefore := List.getElem?_eq_getElem (Nat.lt_of_succ_lt hlt)
  exact ⟨_, hbefore, hends ▸ start_getElem? (hrows ▸ hbefore) (hrows ▸ h)⟩

/-- The bytes of a table through the end of a row, if it is read to its end. -/
def through? (bytes : Bytes) (i : Nat) : Option Bytes :=
  match (rows bytes)[i]?, (ends bytes)[i]? with
  | some row, some place => if row.ended then some (bytes.take place.byte) else none
  | _, _ => none

theorem through?_eq_some {place : Position} (h : (rows bytes)[i]? = some row)
    (hended : row.ended = true) (hplace : (ends bytes)[i]? = some place) :
    through? bytes i = some (bytes.take place.byte) := by
  rw [through?, h, hplace]
  exact if_pos hended

/-- The bytes in front of a row are those through the end of the row before it. -/
theorem through?_of_start (h : (rows bytes)[i + 1]? = some row) :
    through? bytes i = some (bytes.take row.start.byte) := by
  obtain ⟨before, hbefore, hended, hplace⟩ := start_of_rows h
  exact through?_eq_some hbefore hended hplace

/-- A row that is read to its end has an end, the rows up to it are read from the bytes through
that end alone, and whatever follows is read on from there. -/
theorem exists_through (h : (rows bytes)[i]? = some row) (hended : row.ended = true) :
    ∃ front rest place, through? bytes i = some front ∧ bytes = front ++ rest ∧ EndsLine front ∧
      ∀ other, rows (front ++ other) =
        (rows bytes).take (i + 1) ++ rowsFrom (i + 1) place other := by
  obtain ⟨mark, body, hbytes, hrows, hends, hexchange⟩ := exists_mark bytes
  obtain ⟨front, rest, hline, hbody, hplace, hfront⟩ := exists_front_of_rowsFrom (hrows ▸ h) hended
  have htake : bytes.take ((Position.mk 1 mark.length).behind front).byte = mark ++ front := by
    rw [byte_behind, ← List.length_append, hbytes, hbody, ← List.append_assoc, List.take_left]
  refine ⟨mark ++ front, rest, (Position.mk 1 mark.length).behind front, ?_, ?_,
    hline.append mark, fun other => ?_⟩
  · rw [← htake]
    exact through?_eq_some h hended (hends ▸ hplace)
  · rw [hbytes, hbody, List.append_assoc]
  · rw [List.append_assoc, hexchange front rest hbody hline, hfront, hrows, Nat.zero_add]

variable {front : Bytes}

theorem exists_row_of_through (h : through? bytes i = some front) :
    ∃ row, (rows bytes)[i]? = some row ∧ row.ended = true := by
  unfold through? at h
  split at h
  · next row place hrow hplace =>
    split at h
    · next hended => exact ⟨row, hrow, hended⟩
    · cases h
  · cases h

/-- What follows the end of a row has no part in the rows up to it. -/
theorem rows_through_append (h : through? bytes i = some front) (other : Bytes) :
    ∃ place, rows (front ++ other) =
      (rows bytes).take (i + 1) ++ rowsFrom (i + 1) place other := by
  obtain ⟨row, hrow, hended⟩ := exists_row_of_through h
  obtain ⟨front', rest, place, hthrough, -, -, hrows⟩ := exists_through hrow hended
  obtain rfl := Option.some.inj (h.symm.trans hthrough)
  exact ⟨place, hrows other⟩

theorem getElem?_rows_through (h : through? bytes i = some front) (other : Bytes) :
    (rows (front ++ other))[i]? = (rows bytes)[i]? := by
  obtain ⟨row, hrow, -⟩ := exists_row_of_through h
  obtain ⟨hlt, -⟩ := List.getElem?_eq_some_iff.1 hrow
  obtain ⟨place, hrows⟩ := rows_through_append h other
  have hlength : i < ((rows bytes).take (i + 1)).length := by
    rw [List.length_take]
    omega
  rw [hrows, List.getElem?_append_left hlength, List.getElem?_take_of_lt (Nat.lt_succ_self i)]

end Abacus.Table
