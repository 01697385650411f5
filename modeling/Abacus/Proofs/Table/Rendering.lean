import Abacus.Table.Row

/-!
# Renderings of tables

One table can be written in many ways. Any field may be quoted, a row may end in a line feed, a
carriage return or both, the last row may go without its end, empty lines may stand anywhere
between rows, and a byte order mark may stand in front. `Rendering` is that grammar, said without
the scanner. `unplaced_rows`: the scanner cuts every rendering of a table into the rows of the
table, and renderings differ in the places of their rows alone.

The proof follows the grammar. A field leaves the scanner outside quotes with the field's bytes
read (`scan_fieldText`), so does a record with its last field (`scan_recordText`), and an end of a
line in front of a row moves nothing but its place (`unplaced_rowsFrom_lineEnd`).
-/

namespace Abacus.Table

/-! ## The grammar -/

/-- A field with each quote written twice. -/
def doubleQuotes (field : Bytes) : Bytes :=
  field.flatMap fun b => if b = quoteMark then [quoteMark, quoteMark] else [b]

/-- A field that may stand without quotes. -/
def CanStandBare (field : Bytes) : Prop :=
  (∀ b ∈ field, b ≠ comma ∧ isLineEnd b = false) ∧ field.head? ≠ some quoteMark

/-- The ways to write a field. -/
inductive FieldText (field : Bytes) : Bytes → Prop
  | bare (h : CanStandBare field) : FieldText field field
  | quoted : FieldText field (quoteMark :: (doubleQuotes field ++ [quoteMark]))

/-- The ways to write the fields of a row, with commas between them. -/
inductive RecordText : List Bytes → Bytes → Prop
  | last {field text : Bytes} (h : FieldText field text) : RecordText [field] text
  | cons {field text : Bytes} {fields : List Bytes} {rest : Bytes} (h : FieldText field text)
      (hrest : RecordText fields rest) : RecordText (field :: fields) (text ++ comma :: rest)

/-- The ways to end a line. -/
inductive LineEnd : Bytes → Prop
  | feed : LineEnd [lineFeed]
  | carriage : LineEnd [carriageReturn]
  | both : LineEnd [carriageReturn, lineFeed]

/-- The ways to write rows. A row is not written as nothing, which would be an empty line. -/
inductive RowsText : List (List Bytes) → Bytes → Prop
  | nil : RowsText [] []
  | emptyLine {table : List (List Bytes)} {ending rest : Bytes} (h : LineEnd ending)
      (hrest : RowsText table rest) : RowsText table (ending ++ rest)
  | row {fields : List Bytes} {text ending : Bytes} {table : List (List Bytes)} {rest : Bytes}
      (h : RecordText fields text) (hne : text ≠ []) (hending : LineEnd ending)
      (hrest : RowsText table rest) : RowsText (fields :: table) (text ++ (ending ++ rest))
  | lastRow {fields : List Bytes} {text : Bytes} (h : RecordText fields text) (hne : text ≠ []) :
      RowsText [fields] text

/-- The bytes that may stand in front of a table. -/
def byteOrderMark : Bytes :=
  [0xEF, 0xBB, 0xBF]

/-- The ways to write a table. -/
inductive Rendering (table : List (List Bytes)) : Bytes → Prop
  | plain {body : Bytes} (h : RowsText table body) : Rendering table body
  | marked {body : Bytes} (h : RowsText table body) : Rendering table (byteOrderMark ++ body)

/-! ## Scanning a field -/

/-- The place behind some bytes. -/
def Position.behind (p : Position) (bytes : Bytes) : Position :=
  bytes.foldl Position.after p

theorem behind_append (p : Position) (first second : Bytes) :
    p.behind (first ++ second) = (p.behind first).behind second :=
  List.foldl_append

theorem scan_skip {mode mode' : Mode} {b : UInt8} (h : action mode b = .skip mode')
    (field : Bytes) (fields : List Bytes) (p : Position) (rest : Bytes) :
    scan mode field fields p (b :: rest) = scan mode' field fields (p.after b) rest := by
  rw [scan, h]

theorem scan_keep {mode mode' : Mode} {b : UInt8} (h : action mode b = .keep mode')
    (field : Bytes) (fields : List Bytes) (p : Position) (rest : Bytes) :
    scan mode field fields p (b :: rest) = scan mode' (b :: field) fields (p.after b) rest := by
  rw [scan, h]

theorem scan_endField {mode : Mode} {b : UInt8} (h : action mode b = .endField) (field : Bytes)
    (fields : List Bytes) (p : Position) (rest : Bytes) :
    scan mode field fields p (b :: rest) =
      scan .fieldStart [] (field.reverse :: fields) (p.after b) rest := by
  rw [scan, h]

theorem scan_endRow {mode : Mode} {b : UInt8} (h : action mode b = .endRow) (field : Bytes)
    (fields : List Bytes) (p : Position) (rest : Bytes) :
    scan mode field fields p (b :: rest) =
      some ⟨(field.reverse :: fields).reverse, true, p.after b, rest⟩ := by
  rw [scan, h]

/-- Inside quotes, a field with its quotes doubled is read as it is, up to the closing quote. -/
theorem scan_doubleQuotes (field read : Bytes) (fields : List Bytes) (p : Position)
    (rest : Bytes) :
    scan .quoted read fields p (doubleQuotes field ++ quoteMark :: rest) =
      scan .closing (field.reverse ++ read) fields
        (p.behind (doubleQuotes field ++ [quoteMark])) rest := by
  induction field generalizing read p with
  | nil => exact scan_skip rfl read fields p rest
  | cons b field ih =>
    have hcons : doubleQuotes (b :: field) =
        (if b = quoteMark then [quoteMark, quoteMark] else [b]) ++ doubleQuotes field :=
      List.flatMap_cons
    rw [List.reverse_cons, List.append_assoc, List.singleton_append, hcons]
    by_cases hb : b = quoteMark
    · subst hb
      rw [if_pos rfl]
      simp only [List.cons_append, List.nil_append]
      rw [scan_skip rfl, scan_keep rfl, ih]
      rfl
    · rw [if_neg hb]
      have hkeep : action .quoted b = .keep .quoted := if_neg hb
      simp only [List.cons_append, List.nil_append]
      rw [scan_keep hkeep, ih]
      rfl

theorem bareAction_eq_keep {b : UInt8} (h : b ≠ comma ∧ isLineEnd b = false) :
    bareAction b = .keep .bare := by
  rw [bareAction, if_neg h.1, h.2]
  rfl

/-- Outside quotes, a field is read up to the comma or the end of the line. -/
theorem scan_bare {field : Bytes} (h : ∀ b ∈ field, b ≠ comma ∧ isLineEnd b = false)
    (read : Bytes) (fields : List Bytes) (p : Position) (rest : Bytes) :
    scan .bare read fields p (field ++ rest) =
      scan .bare (field.reverse ++ read) fields (p.behind field) rest := by
  induction field generalizing read p with
  | nil => rfl
  | cons b field ih =>
    have hkeep : action .bare b = .keep .bare := bareAction_eq_keep (h b List.mem_cons_self)
    rw [List.cons_append, scan_keep hkeep, ih fun c hc => h c (List.mem_cons_of_mem b hc),
      List.reverse_cons, List.append_assoc]
    rfl

/-- Where a field may start. -/
def Mode.isStart : Mode → Prop
  | .rowStart => True
  | .fieldStart => True
  | _ => False

theorem isStart_rowStart : Mode.rowStart.isStart := trivial

theorem isStart_fieldStart : Mode.fieldStart.isStart := trivial

theorem action_of_isStart {mode : Mode} (hmode : mode.isStart) {b : UInt8}
    (hb : isLineEnd b = false) : action mode b = openAction b := by
  cases mode with
  | rowStart => rw [action, hb]; rfl
  | fieldStart => rfl
  | bare => exact hmode.elim
  | quoted => exact hmode.elim
  | closing => exact hmode.elim

/-- However a field is written, the scanner has read it and is outside quotes behind it; it still
is at the start of the row only if nothing was written there. -/
theorem scan_fieldText {mode : Mode} (hmode : mode.isStart) {field text : Bytes}
    (h : FieldText field text) (fields : List Bytes) (p : Position) (rest : Bytes) :
    ∃ mode', mode' ≠ .quoted ∧ (mode' = .rowStart → mode = .rowStart ∧ text = []) ∧
      scan mode [] fields p (text ++ rest) =
        scan mode' field.reverse fields (p.behind text) rest := by
  cases h with
  | quoted =>
    have hskip : action mode quoteMark = .skip .quoted := action_of_isStart hmode rfl
    refine ⟨.closing, by simp, by simp, ?_⟩
    rw [List.cons_append, scan_skip hskip, List.append_assoc, List.singleton_append,
      scan_doubleQuotes, List.append_nil]
    rfl
  | bare hbare =>
    cases field with
    | nil =>
      refine ⟨mode, ?_, fun hrow => ⟨hrow, rfl⟩, rfl⟩
      rintro rfl
      exact hmode
    | cons b field =>
      have hb := hbare.1 b List.mem_cons_self
      have hquote : b ≠ quoteMark := fun hb => hbare.2 (congrArg some hb)
      have hkeep : action mode b = .keep .bare := by
        rw [action_of_isStart hmode hb.2, openAction, if_neg hquote, bareAction_eq_keep hb]
      refine ⟨.bare, by simp, by simp, ?_⟩
      rw [List.cons_append, scan_keep hkeep,
        scan_bare fun c hc => hbare.1 c (List.mem_cons_of_mem b hc), List.reverse_cons]
      rfl

/-! ## Scanning a row -/

theorem action_comma {mode : Mode} (h : mode ≠ .quoted) : action mode comma = .endField := by
  cases mode with
  | quoted => exact absurd rfl h
  | _ => rfl

/-- However a row is written, the scanner has read its fields behind it, the last one still
under way, and is outside quotes. -/
theorem scan_recordText {mode : Mode} (hmode : mode.isStart) {fields : List Bytes} {text : Bytes}
    (h : RecordText fields text) (hne : mode = .rowStart → text ≠ []) (before : List Bytes)
    (p : Position) (rest : Bytes) :
    ∃ mode' field before', mode' ≠ .quoted ∧ mode' ≠ .rowStart ∧
      (field.reverse :: before').reverse = before.reverse ++ fields ∧
      scan mode [] before p (text ++ rest) =
        scan mode' field before' (p.behind text) rest := by
  induction h generalizing mode before p with
  | @last field text hfield =>
    obtain ⟨mode', hquoted, hrow, hscan⟩ := scan_fieldText hmode hfield before p rest
    refine ⟨mode', field.reverse, before, hquoted, ?_, by simp, hscan⟩
    intro hstart
    exact hne (hrow hstart).1 (hrow hstart).2
  | @cons field text fields others hfield _ ih =>
    obtain ⟨mode', hquoted, -, hscan⟩ :=
      scan_fieldText hmode hfield before p (comma :: (others ++ rest))
    rw [scan_endField (action_comma hquoted), List.reverse_reverse] at hscan
    obtain ⟨mode'', last, before', hquoted', hrow', hfields, hscan'⟩ :=
      ih isStart_fieldStart (by simp) (field :: before)
        ((p.behind text).after comma)
    refine ⟨mode'', last, before', hquoted', hrow', by simpa using hfields, ?_⟩
    rw [List.append_assoc, List.cons_append, hscan, hscan', behind_append]
    rfl

theorem action_lineEnd {mode : Mode} (hquoted : mode ≠ .quoted) (hrow : mode ≠ .rowStart)
    {b : UInt8} (hb : isLineEnd b = true) : action mode b = .endRow := by
  have hcomma : b ≠ comma := by
    rintro rfl
    cases hb
  have hquote : b ≠ quoteMark := by
    rintro rfl
    cases hb
  have hbare : bareAction b = .endRow := by
    rw [bareAction, if_neg hcomma, if_pos hb]
  cases mode with
  | rowStart => exact absurd rfl hrow
  | fieldStart => rw [action, openAction, if_neg hquote, hbare]
  | bare => exact hbare
  | quoted => exact absurd rfl hquoted
  | closing => rw [action, if_neg hquote, hbare]

/-- A row that is written with its end is cut off with its fields. -/
theorem scan_row {fields : List Bytes} {text : Bytes} (h : RecordText fields text)
    (hne : text ≠ []) {b : UInt8} (hb : isLineEnd b = true) (p : Position) (rest : Bytes) :
    scan .rowStart [] [] p (text ++ b :: rest) =
      some ⟨fields, true, (p.behind text).after b, rest⟩ := by
  obtain ⟨mode, field, before, hquoted, hrow, hfields, hscan⟩ :=
    scan_recordText isStart_rowStart h (fun _ => hne) [] p (b :: rest)
  rw [hscan, scan_endRow (action_lineEnd hquoted hrow hb), hfields]
  rfl

/-- A row that is written without its end is cut off at the end of the bytes. -/
theorem scan_lastRow {fields : List Bytes} {text : Bytes} (h : RecordText fields text)
    (hne : text ≠ []) (p : Position) :
    scan .rowStart [] [] p text = some ⟨fields, false, p.behind text, []⟩ := by
  obtain ⟨mode, field, before, -, hrow, hfields, hscan⟩ :=
    scan_recordText isStart_rowStart h (fun _ => hne) [] p []
  rw [List.append_nil] at hscan
  rw [hscan, scan, if_neg hrow]
  simp only [hfields, List.reverse_nil, List.nil_append]

/-! ## Scanning all rows -/

/-- A row with its place and its end left out. -/
def Row.unplaced (row : Row) : Row :=
  ⟨row.number, ⟨1, 0⟩, row.fields, true⟩

/-- The rows of a table, numbered, without places. -/
def numbered (number : Nat) : List (List Bytes) → List Row
  | [] => []
  | fields :: table => ⟨number, ⟨1, 0⟩, fields, true⟩ :: numbered (number + 1) table

theorem fields_numbered (number : Nat) (table : List (List Bytes)) :
    (numbered number table).map Row.fields = table := by
  induction table generalizing number with
  | nil => rfl
  | cons fields table ih => exact congrArg (fields :: ·) (ih (number + 1))

theorem rowsFrom_of_scan {start : Position} {bytes : Bytes} {cut : Cut}
    (h : scan .rowStart [] [] start bytes = some cut) (number : Nat) :
    rowsFrom number start bytes =
      ⟨number, start, cut.fields, cut.ended⟩ :: rowsFrom (number + 1) cut.next cut.rest := by
  rw [rowsFrom]
  split
  · next hnone =>
    rw [h] at hnone
    cases hnone
  · next cut' hcut =>
    rw [h, Option.some.injEq] at hcut
    subst hcut
    rfl

theorem rowsFrom_of_scan_none {start : Position} {bytes : Bytes}
    (h : scan .rowStart [] [] start bytes = none) (number : Nat) :
    rowsFrom number start bytes = [] := by
  rw [rowsFrom]
  split
  · rfl
  · next cut hcut =>
    rw [h] at hcut
    cases hcut

theorem rowsFrom_nil (number : Nat) (start : Position) : rowsFrom number start [] = [] :=
  rowsFrom_of_scan_none rfl number

/-- An end of a line in front of a row moves its place and nothing else. -/
theorem unplaced_rowsFrom_lineEnd {b : UInt8} (hb : isLineEnd b = true) (number : Nat)
    (start : Position) (rest : Bytes) :
    (rowsFrom number start (b :: rest)).map Row.unplaced =
      (rowsFrom number (start.after b) rest).map Row.unplaced := by
  have hskip : action .rowStart b = .skip .rowStart := if_pos hb
  have hscan := scan_skip hskip [] [] start rest
  cases hcut : scan .rowStart [] [] (start.after b) rest with
  | none => rw [rowsFrom_of_scan_none (hscan.trans hcut), rowsFrom_of_scan_none hcut]
  | some cut =>
    rw [rowsFrom_of_scan (hscan.trans hcut), rowsFrom_of_scan hcut]
    rfl

theorem unplaced_rowsFrom_row {fields : List Bytes} {text : Bytes} (h : RecordText fields text)
    (hne : text ≠ []) {b : UInt8} (hb : isLineEnd b = true) (number : Nat) (start : Position)
    (rest : Bytes) :
    (rowsFrom number start (text ++ b :: rest)).map Row.unplaced =
      ⟨number, ⟨1, 0⟩, fields, true⟩ ::
        (rowsFrom (number + 1) ((start.behind text).after b) rest).map Row.unplaced :=
  congrArg (List.map Row.unplaced) (rowsFrom_of_scan (scan_row h hne hb start rest) number)

theorem unplaced_rowsFrom {table : List (List Bytes)} {body : Bytes} (h : RowsText table body)
    (number : Nat) (start : Position) :
    (rowsFrom number start body).map Row.unplaced = numbered number table := by
  induction h generalizing number start with
  | nil => rw [rowsFrom_nil, List.map_nil, numbered]
  | emptyLine hending _ ih =>
    cases hending with
    | feed => exact (unplaced_rowsFrom_lineEnd rfl _ _ _).trans (ih number _)
    | carriage => exact (unplaced_rowsFrom_lineEnd rfl _ _ _).trans (ih number _)
    | both =>
      refine (unplaced_rowsFrom_lineEnd rfl _ _ _).trans ?_
      exact (unplaced_rowsFrom_lineEnd rfl _ _ _).trans (ih number _)
  | row htext hne hending _ ih =>
    rw [numbered]
    cases hending with
    | feed => exact (unplaced_rowsFrom_row htext hne rfl _ _ _).trans (congrArg _ (ih _ _))
    | carriage => exact (unplaced_rowsFrom_row htext hne rfl _ _ _).trans (congrArg _ (ih _ _))
    | both =>
      -- The carriage return ends the row, and the line feed is an empty line behind it.
      refine (unplaced_rowsFrom_row htext hne rfl _ _ _).trans (congrArg _ ?_)
      exact (unplaced_rowsFrom_lineEnd rfl _ _ _).trans (ih _ _)
  | lastRow htext hne =>
    rw [rowsFrom_of_scan (scan_lastRow htext hne start), rowsFrom_nil]
    rfl

/-! ## Byte order marks -/

theorem rows_byteOrderMark (body : Bytes) : rows (byteOrderMark ++ body) = rowsFrom 0 ⟨1, 3⟩ body :=
  rfl

theorem rows_of_unmarked {bytes : Bytes} (h : ¬byteOrderMark <+: bytes) :
    rows bytes = rowsFrom 0 ⟨1, 0⟩ bytes := by
  unfold rows
  split
  · next rest => exact absurd (List.prefix_append byteOrderMark rest) h
  · rfl

/-- A field without a mark in front shows none, however it is written. -/
theorem not_prefix_fieldText {field text : Bytes} (h : FieldText field text)
    (hfield : ¬byteOrderMark <+: field) {rest : Bytes}
    (hrest : ∀ b ∈ rest.head?, b ∉ byteOrderMark) :
    ¬byteOrderMark <+: text ++ rest := by
  cases h with
  | quoted => simp [byteOrderMark, quoteMark]
  | bare _ =>
    intro hprefix
    rcases List.prefix_or_prefix_of_prefix hprefix (List.prefix_append field rest) with hle | hle
    · exact hfield hle
    · obtain ⟨others, hothers⟩ := hle
      cases others with
      | nil => exact hfield ⟨[], by rw [List.append_nil, ← hothers, List.append_nil]⟩
      | cons b others =>
        rw [← hothers, List.prefix_append_right_inj] at hprefix
        obtain ⟨tail, rfl⟩ := hprefix
        exact hrest b rfl (by rw [← hothers]; simp)

theorem notMem_byteOrderMark_of_isLineEnd {b : UInt8} (hb : isLineEnd b = true) :
    b ∉ byteOrderMark := by
  intro hmem
  have hnone : ∀ c ∈ byteOrderMark, (!isLineEnd c) = true := List.all_eq_true.1 (by decide)
  have hmark := hnone b hmem
  rw [hb] at hmark
  cases hmark

theorem not_prefix_recordText {fields : List Bytes} {text : Bytes} (h : RecordText fields text)
    (hfirst : ∀ field ∈ fields.head?, ¬byteOrderMark <+: field) {rest : Bytes}
    (hrest : ∀ b ∈ rest.head?, b ∉ byteOrderMark) : ¬byteOrderMark <+: text ++ rest := by
  cases h with
  | last hfield => exact not_prefix_fieldText hfield (hfirst _ rfl) hrest
  | cons hfield _ =>
    rw [List.append_assoc, List.cons_append]
    refine not_prefix_fieldText hfield (hfirst _ rfl) fun b hb => ?_
    obtain rfl : comma = b := Option.some.inj hb
    decide

theorem LineEnd.eq_cons {ending : Bytes} (h : LineEnd ending) :
    ∃ b rest, ending = b :: rest ∧ isLineEnd b = true := by
  cases h with
  | feed => exact ⟨_, _, rfl, rfl⟩
  | carriage => exact ⟨_, _, rfl, rfl⟩
  | both => exact ⟨_, _, rfl, rfl⟩

theorem not_prefix_rowsText {table : List (List Bytes)} {body : Bytes} (h : RowsText table body)
    (hfirst : ∀ fields ∈ table.head?, ∀ field ∈ fields.head?, ¬byteOrderMark <+: field) :
    ¬byteOrderMark <+: body := by
  cases h with
  | nil => simp [byteOrderMark]
  | emptyLine hending _ =>
    obtain ⟨b, rest, rfl, hb⟩ := hending.eq_cons
    intro hprefix
    obtain ⟨heq, -⟩ := List.cons_prefix_cons.1 hprefix
    exact notMem_byteOrderMark_of_isLineEnd hb (heq ▸ List.mem_cons_self)
  | row htext _ hending _ =>
    obtain ⟨b, rest, rfl, hb⟩ := hending.eq_cons
    refine not_prefix_recordText htext (hfirst _ rfl) fun c hc => ?_
    obtain rfl : b = c := Option.some.inj hc
    exact notMem_byteOrderMark_of_isLineEnd hb
  | lastRow htext _ =>
    rw [← List.append_nil body]
    exact not_prefix_recordText htext (hfirst _ rfl) (by simp)

/-- The scanner finds the rows of a table in each of its renderings. -/
theorem unplaced_rows {table : List (List Bytes)} {bytes : Bytes} (h : Rendering table bytes)
    (hfirst : ∀ fields ∈ table.head?, ∀ field ∈ fields.head?, ¬byteOrderMark <+: field) :
    (rows bytes).map Row.unplaced = numbered 0 table := by
  cases h with
  | plain h =>
    rw [rows_of_unmarked (not_prefix_rowsText h hfirst)]
    exact unplaced_rowsFrom h 0 _
  | marked h =>
    rw [rows_byteOrderMark]
    exact unplaced_rowsFrom h 0 _

end Abacus.Table
