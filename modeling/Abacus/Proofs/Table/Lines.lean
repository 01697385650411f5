import Abacus.Proofs.Table.Ends

/-!
# Lines of a table

A line ends at a line feed, at a carriage return, or at both in this order. A row takes one line,
and one more for each end of a line that it keeps in its quotes; and any number of empty lines may
stand in front of it. `physicalLine_eq` is the account: the line on which a row starts is its number
among the rows, with the empty lines up to it and the line breaks kept in the rows before it.

What one byte does to the count is `counts_action`, and `lineEnds_of_scan` follows a row to its end
by induction on its bytes. The bytes of a field are not those of the table, since quotes are dropped
from it; but wherever the scanner drops a byte it drops a quote, so a carriage return and a line
feed stand side by side in a field only if they do in the table. That is what `Mode.Follows` carries
from byte to byte.
-/

namespace Abacus.Table

/-! ## Ends of lines -/

/-- The ends of lines that a byte makes: a line feed right behind a carriage return is the second
half of an end. -/
def lineEndsAt (before : Option UInt8) (b : UInt8) : Nat :=
  if b = carriageReturn ∨ b = lineFeed ∧ before ≠ some carriageReturn then 1 else 0

/-- The ends of lines in some bytes, which may stand behind another byte. -/
def lineEnds (before : Option UInt8) : Bytes → Nat
  | [] => 0
  | b :: rest => lineEndsAt before b + lineEnds (some b) rest

/-- The line breaks in some fields. -/
def lineBreaks : List Bytes → Nat
  | [] => 0
  | field :: fields => lineEnds none field + lineBreaks fields

variable {before : Option UInt8} {b : UInt8}

theorem ne_carriageReturn (hb : isLineEnd b = false) : some b ≠ some carriageReturn := by
  intro h
  rw [Option.some.inj h] at hb
  cases hb

theorem lineEndsAt_of_not_isLineEnd (hb : isLineEnd b = false) : lineEndsAt before b = 0 := by
  have hboth : b ≠ lineFeed ∧ b ≠ carriageReturn := by simpa [isLineEnd] using hb
  refine if_neg ?_
  rintro (h | ⟨h, -⟩)
  · exact hboth.2 h
  · exact hboth.1 h

theorem lineEndsAt_of_isLineEnd (hb : isLineEnd b = true) (hbefore : before ≠ some carriageReturn) :
    lineEndsAt before b = 1 := by
  have heither : b = lineFeed ∨ b = carriageReturn := by simpa [isLineEnd] using hb
  exact if_pos (heither.symm.imp_right fun h => ⟨h, hbefore⟩)

/-- Of the byte in front nothing counts but whether it is a carriage return. -/
theorem lineEndsAt_congr {other : Option UInt8}
    (h : before = some carriageReturn ↔ other = some carriageReturn) :
    lineEndsAt before b = lineEndsAt other b := by
  simp only [lineEndsAt, ne_eq, h]

theorem lineEnds_append (before : Option UInt8) (first second : Bytes) :
    lineEnds before (first ++ second) =
      lineEnds before first + lineEnds (first.getLast?.or before) second := by
  induction first generalizing before with
  | nil => exact (Nat.zero_add _).symm
  | cons b first ih =>
    rw [List.cons_append, lineEnds, lineEnds, ih, Nat.add_assoc, Option.or_some,
      List.getLast?_cons]
    rfl

/-- A line break, an empty line, a carriage return alone and a line break. -/
example : lineEnds none [0x61, 0x0D, 0x0A, 0x0A, 0x0D, 0x0D, 0x0A] = 4 := by decide

/-- Bytes that do not start with the end of a line have as many behind any byte. -/
theorem lineEnds_cons_of_not_isLineEnd (hb : isLineEnd b = false) (rest : Bytes) :
    lineEnds before (b :: rest) = lineEnds none (b :: rest) := by
  rw [lineEnds, lineEnds, lineEndsAt_of_not_isLineEnd hb, lineEndsAt_of_not_isLineEnd hb]

theorem lineEnds_eq_zero_iff {bytes : Bytes} (hbefore : before ≠ some carriageReturn) :
    lineEnds before bytes = 0 ↔ ∀ b ∈ bytes, isLineEnd b = false := by
  induction bytes generalizing before with
  | nil => simp [lineEnds]
  | cons b rest ih =>
    rw [lineEnds, Nat.add_eq_zero_iff, List.forall_mem_cons]
    cases hb : isLineEnd b with
    | true => simp [lineEndsAt_of_isLineEnd hb hbefore]
    | false =>
      rw [lineEndsAt_of_not_isLineEnd hb, ih (ne_carriageReturn hb)]
      simp only [true_and]

theorem lineBreaks_append (first second : List Bytes) :
    lineBreaks (first ++ second) = lineBreaks first + lineBreaks second := by
  induction first with
  | nil => exact (Nat.zero_add _).symm
  | cons field first ih => rw [List.cons_append, lineBreaks, lineBreaks, ih, Nat.add_assoc]

theorem lineBreaks_reverse (fields : List Bytes) :
    lineBreaks fields.reverse = lineBreaks fields := by
  induction fields with
  | nil => rfl
  | cons field fields ih =>
    rw [List.reverse_cons, lineBreaks_append, ih, lineBreaks, lineBreaks, lineBreaks]
    exact Nat.add_comm _ _

theorem lineBreaks_eq_zero_iff {fields : List Bytes} :
    lineBreaks fields = 0 ↔ ∀ field ∈ fields, ∀ b ∈ field, isLineEnd b = false := by
  induction fields with
  | nil => simp [lineBreaks]
  | cons field fields ih =>
    rw [lineBreaks, Nat.add_eq_zero_iff, lineEnds_eq_zero_iff (by simp), ih, List.forall_mem_cons]

/-! ## One row -/

/-- What the byte in front of the scanner can be in a row, the field under way being held backwards:
in quotes it is a carriage return exactly if the field ends in one, and elsewhere it is none. -/
def Mode.Follows (before : Option UInt8) (field : Bytes) : Mode → Prop
  | .rowStart => False
  | .fieldStart => field = [] ∧ before ≠ some carriageReturn
  | .quoted => before = some carriageReturn ↔ field.head? = some carriageReturn
  | .bare => before ≠ some carriageReturn
  | .closing => before ≠ some carriageReturn

/-- How the ends of lines up to a byte are accounted for by what it does: it makes none, or it makes
one in the field that it is kept in, or it makes the one that ends the row. -/
def Action.Counts (before : Option UInt8) (field : Bytes) (b : UInt8) : Action → Prop
  | .skip mode => mode.Follows (some b) field ∧ lineEndsAt before b = 0
  | .keep mode =>
    mode.Follows (some b) (b :: field) ∧ lineEndsAt before b = lineEndsAt field.head? b
  | .endField => Mode.fieldStart.Follows (some b) [] ∧ lineEndsAt before b = 0
  | .endRow => lineEndsAt before b = 1

variable {field : Bytes}

theorem counts_bareAction (hbefore : before ≠ some carriageReturn) (b : UInt8) :
    (bareAction b).Counts before field b := by
  unfold bareAction
  split
  · next hcomma =>
    subst hcomma
    exact ⟨⟨rfl, by decide⟩, lineEndsAt_of_not_isLineEnd rfl⟩
  split
  · next hb => exact lineEndsAt_of_isLineEnd hb hbefore
  · next hb =>
    rw [Bool.not_eq_true] at hb
    refine ⟨ne_carriageReturn hb, ?_⟩
    rw [lineEndsAt_of_not_isLineEnd hb, lineEndsAt_of_not_isLineEnd hb]

theorem counts_action {mode : Mode} (h : mode.Follows before field) (b : UInt8) :
    (action mode b).Counts before field b := by
  cases mode with
  | rowStart => exact h.elim
  | fieldStart =>
    obtain ⟨rfl, hbefore⟩ := h
    rw [action, openAction]
    split
    · next hquote =>
      subst hquote
      exact ⟨by simp [Mode.Follows, quoteMark, carriageReturn], lineEndsAt_of_not_isLineEnd rfl⟩
    · exact counts_bareAction hbefore b
  | bare => exact counts_bareAction h b
  | quoted =>
    rw [action]
    split
    · next hquote =>
      subst hquote
      exact ⟨ne_carriageReturn rfl, lineEndsAt_of_not_isLineEnd rfl⟩
    · exact ⟨Iff.rfl, lineEndsAt_congr h⟩
  | closing =>
    rw [action]
    split
    · next hquote =>
      subst hquote
      refine ⟨Iff.rfl, ?_⟩
      rw [lineEndsAt_of_not_isLineEnd rfl, lineEndsAt_of_not_isLineEnd rfl]
    · exact counts_bareAction h b

/-- A row that is read to its end takes one end of a line for itself and keeps the others in its
fields. -/
theorem lineEnds_of_scan {mode : Mode} {fields read : List Bytes} {p next : Position}
    {front other : Bytes} (hmode : mode.Follows before field)
    (h : scan mode field fields p (front ++ other) = some ⟨read, true, next, other⟩) :
    lineEnds before front + lineBreaks (field.reverse :: fields) = 1 + lineBreaks read := by
  induction front generalizing mode before field fields p with
  | nil =>
    -- A row that is read to its end takes the byte that ends it.
    obtain ⟨front, ⟨text, b, rfl, -⟩, hbytes, -⟩ := exists_front_of_scan h rfl
    have hlength := congrArg List.length hbytes
    simp only [List.length_append, List.length_cons, List.length_nil] at hlength
    omega
  | cons b front ih =>
    have hcounts := counts_action hmode b
    rw [List.cons_append] at h
    rw [lineEnds]
    cases haction : action mode b with
    | skip mode' =>
      rw [haction] at hcounts
      rw [scan_skip haction] at h
      rw [hcounts.2, Nat.zero_add]
      exact ih hcounts.1 h
    | keep mode' =>
      rw [haction] at hcounts
      rw [scan_keep haction] at h
      have hrest := ih hcounts.1 h
      have hkept : lineEnds none (b :: field).reverse =
          lineEnds none field.reverse + lineEndsAt before b := by
        rw [List.reverse_cons, lineEnds_append, Option.or_none, List.getLast?_reverse, hcounts.2]
        rfl
      rw [lineBreaks] at hrest ⊢
      omega
    | endField =>
      rw [haction] at hcounts
      rw [scan_endField haction] at h
      have hrest := ih hcounts.1 h
      rw [List.reverse_nil, lineBreaks, lineEnds, Nat.zero_add] at hrest
      rw [hcounts.2, Nat.zero_add, hrest]
    | endRow =>
      rw [haction] at hcounts
      rw [scan_endRow haction] at h
      simp only [Option.some.injEq, Cut.mk.injEq, true_and, List.append_left_eq_self] at h
      obtain ⟨rfl, -, rfl⟩ := h
      rw [hcounts, lineBreaks_reverse]
      rfl

/-- The scanner passes over the ends of lines in front of a row. -/
theorem scan_lineEnds {gap : Bytes} (h : ∀ b ∈ gap, isLineEnd b = true) (p : Position)
    (rest : Bytes) :
    scan .rowStart [] [] p (gap ++ rest) = scan .rowStart [] [] (p.behind gap) rest := by
  induction gap generalizing p with
  | nil => rfl
  | cons b gap ih =>
    obtain ⟨hb, hgap⟩ := List.forall_mem_cons.1 h
    have hskip : action .rowStart b = .skip .rowStart := if_pos hb
    rw [List.cons_append, scan_skip hskip, ih hgap]
    rfl

theorem scan_rowStart_cons (hb : isLineEnd b = false) (p : Position) (rest : Bytes) :
    scan .rowStart [] [] p (b :: rest) = scan .fieldStart [] [] p (b :: rest) := by
  simp only [scan, action_of_isStart isStart_rowStart hb, action_of_isStart isStart_fieldStart hb]

variable {start : Position} {bytes : Bytes} {cut : Cut}

/-- Behind the ends of lines in front of it, a row starts with another byte. -/
theorem exists_gap_of_scan (h : scan .rowStart [] [] start bytes = some cut) :
    ∃ b rest, bytes = bytes.takeWhile isLineEnd ++ b :: rest ∧ isLineEnd b = false ∧
      scan .fieldStart [] [] (start.behind (bytes.takeWhile isLineEnd)) (b :: rest) = some cut := by
  have hgap : ∀ b ∈ bytes.takeWhile isLineEnd, isLineEnd b = true :=
    List.all_eq_true.1 List.all_takeWhile
  have hbytes := List.takeWhile_append_dropWhile (p := isLineEnd) (l := bytes)
  have hfirst := List.head?_dropWhile_not isLineEnd bytes
  rw [← hbytes, scan_lineEnds hgap] at h
  cases hrest : bytes.dropWhile isLineEnd with
  | nil =>
    rw [hrest] at h
    cases h
  | cons b rest =>
    rw [hrest] at h hbytes hfirst
    rw [scan_rowStart_cons hfirst] at h
    exact ⟨b, rest, hbytes.symm, hfirst, h⟩

/-- A row that is read to its end takes the empty lines in front of it, one end of a line for
itself, and those in its fields. -/
theorem exists_lineEnds_of_scan (h : scan .rowStart [] [] start bytes = some cut)
    (hended : cut.ended = true) :
    ∃ front, bytes = front ++ cut.rest ∧ cut.next = start.behind front ∧
      ∀ before, lineEnds before front =
        lineEnds before (bytes.takeWhile isLineEnd) + (1 + lineBreaks cut.fields) := by
  obtain ⟨b, rest, hbytes, hb, hscan⟩ := exists_gap_of_scan h
  obtain ⟨line, hline, hrest, hnext, hcut⟩ := exists_front_of_scan hscan hended
  refine ⟨bytes.takeWhile isLineEnd ++ line, ?_, ?_, fun before => ?_⟩
  · rw [List.append_assoc, ← hrest]
    exact hbytes
  · rw [behind_append, hnext]
  · have hfollows : Mode.fieldStart.Follows none [] := ⟨rfl, by decide⟩
    have hcount := lineEnds_of_scan hfollows (hcut cut.rest)
    -- The first byte of the row ends no line, so it does not matter what stands in front of it.
    obtain ⟨tail, rfl⟩ : ∃ tail, line = b :: tail := by
      cases line with
      | nil =>
        obtain ⟨text, e, hnil, -⟩ := hline
        simp at hnil
      | cons c tail =>
        rw [List.cons_append, List.cons.injEq] at hrest
        exact ⟨tail, by rw [hrest.1]⟩
    rw [lineEnds_append, lineEnds_cons_of_not_isLineEnd hb, ← hcount]
    rfl

/-! ## All rows -/

/-- The place of the first byte of a row: it stands behind the ends of lines that come behind the
row before it. -/
def firstByte (bytes : Bytes) (row : Row) : Nat :=
  row.start.byte + ((bytes.drop row.start.byte).takeWhile isLineEnd).length

/-- The line of a table on which a row starts. -/
def physicalLine (bytes : Bytes) (row : Row) : Nat :=
  1 + lineEnds none (bytes.take (firstByte bytes row))

/-- The number of empty lines in front of a row and behind the row before it. A carriage return may
have ended that row, and then a line feed behind it ends no line. -/
def emptyLines (bytes : Bytes) (row : Row) : Nat :=
  lineEnds (bytes.take row.start.byte).getLast?
    ((bytes.drop row.start.byte).takeWhile isLineEnd)

theorem lineEnds_take_firstByte (bytes : Bytes) (row : Row) :
    lineEnds none (bytes.take (firstByte bytes row)) =
      lineEnds none (bytes.take row.start.byte) + emptyLines bytes row := by
  have hgap : (bytes.drop row.start.byte).take
        ((bytes.drop row.start.byte).takeWhile isLineEnd).length =
      (bytes.drop row.start.byte).takeWhile isLineEnd :=
    (List.prefix_iff_eq_take.1 (List.takeWhile_prefix isLineEnd)).symm
  rw [firstByte, List.take_add, hgap, lineEnds_append, Option.or_none, emptyLines]

/-- The lines that some rows take in excess of one for each. -/
def excess (bytes : Bytes) : List Row → Nat
  | [] => 0
  | row :: rows => emptyLines bytes row + lineBreaks row.fields + excess bytes rows

/-- The ends of lines in front of a row that starts where the one before it ended. -/
theorem lineEnds_take_start {front body : Bytes} {number i : Nat} {row : Row}
    (hstart : start.byte = front.length) (h : (rowsFrom number start body)[i]? = some row) :
    lineEnds none ((front ++ body).take row.start.byte) =
      lineEnds none front + i + excess (front ++ body) ((rowsFrom number start body).take i) := by
  induction i generalizing number start front body with
  | zero =>
    obtain ⟨cut, -, hrow⟩ := exists_cut_of_getElem? h
    obtain rfl := Option.some.inj hrow
    rw [hstart, List.take_left]
    rfl
  | succ i ih =>
    obtain ⟨cut, hscan, hrow⟩ := exists_cut_of_getElem? h
    obtain ⟨first, hbody, hnext, hfirst⟩ :=
      exists_lineEnds_of_scan hscan (ended_of_getElem? hscan hrow)
    have hplace : cut.next.byte = (front ++ first).length := by
      rw [hnext, byte_behind, hstart, List.length_append]
    have hrest := ih hplace hrow
    rw [List.append_assoc, ← hbody] at hrest
    have hempty : emptyLines (front ++ body) ⟨number, start, cut.fields, cut.ended⟩ =
        lineEnds front.getLast? (body.takeWhile isLineEnd) := by
      rw [emptyLines, hstart, List.take_left, List.drop_left]
    rw [hrest, rowsFrom_of_scan hscan, List.take_succ_cons, excess, hempty, lineEnds_append,
      Option.or_none, hfirst]
    dsimp only
    omega

/-- The line on which a row starts. -/
theorem physicalLine_eq {i : Nat} {row : Row} (h : (rows bytes)[i]? = some row) :
    physicalLine bytes row =
      i + 1 + (excess bytes ((rows bytes).take i) + emptyLines bytes row) := by
  have hcount : lineEnds none (bytes.take row.start.byte) =
      i + excess bytes ((rows bytes).take i) := by
    by_cases hmark : byteOrderMark <+: bytes
    · obtain ⟨body, rfl⟩ := hmark
      rw [rows_byteOrderMark] at h ⊢
      rw [lineEnds_take_start rfl h, show lineEnds none byteOrderMark = 0 from rfl, Nat.zero_add]
    · rw [rows_of_unmarked hmark] at h ⊢
      have hstart : (Position.mk 1 0).byte = ([] : Bytes).length := rfl
      have hplain := lineEnds_take_start hstart h
      rwa [List.nil_append, lineEnds, Nat.zero_add] at hplain
  rw [physicalLine, lineEnds_take_firstByte, hcount]
  omega

end Abacus.Table
