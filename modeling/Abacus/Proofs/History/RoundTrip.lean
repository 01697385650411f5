import Abacus.Proofs.Decimal.Layout
import Abacus.Proofs.History.Rendering
import Abacus.Proofs.History.Writing
import Abacus.Proofs.Table.Bare

/-!
# Written histories read back

The bytes of a history are those of its table written without quotes (`encode_lines`), the header
names the columns in their order (`header_encode`), and each row makes the record that it was
written for (`readRow_fields`). So what an output gets of a history reads back as its records:
`read_write`.
-/

namespace Abacus.History

open Table

/-! ## Fields without quotes -/

/-- A character that needs no quotes around it. -/
def isPlain (c : Char) : Bool :=
  !needsQuotes c

theorem isPlain_of_isNumberChar {c : Char} (h : Layout.isNumberChar c = true) :
    isPlain c = true := by
  have hnone : ∀ d ∈ ",\"\n\r".toList, (!Layout.isNumberChar d) = true :=
    List.all_eq_true.1 (by decide)
  rw [isPlain, needsQuotes, Bool.not_eq_true', ← Bool.not_eq_true, List.contains_iff_mem]
  intro hmem
  have hc := hnone c hmem
  rw [h] at hc
  cases hc

theorem isPlain_of_mem_name {column : Column} {c : Char} (h : c ∈ column.name) :
    isPlain c = true := by
  have hname : column.name.all isPlain = true := by
    cases column <;> decide
  exact List.all_eq_true.1 hname c h

/-- No byte of a text without such characters is a separator or a quote. -/
theorem canStandBare_encode {text : Text} (h : ∀ c ∈ text, isPlain c = true) :
    CanStandBare (Utf8.encode text) := by
  have hbytes : ∀ b : UInt8, b.toNat < 0x80 → isPlain (Char.ofNat b.toNat) = false →
      b ∉ Utf8.encode text := by
    intro b hb hplain hmem
    rw [h _ (Utf8.mem_of_mem_encode hmem hb)] at hplain
    cases hplain
  refine ⟨fun b hmem => ⟨?_, ?_⟩, fun hhead => ?_⟩
  · rintro rfl
    exact hbytes comma (by decide) (by decide) hmem
  · rw [isLineEnd, Bool.or_eq_false_iff, beq_eq_false_iff_ne, beq_eq_false_iff_ne]
    constructor
    · rintro rfl
      exact hbytes lineFeed (by decide) (by decide) hmem
    · rintro rfl
      exact hbytes carriageReturn (by decide) (by decide) hmem
  · exact hbytes quoteMark (by decide) (by decide) (List.mem_of_head? hhead)

/-- A field without such characters is written as it is. -/
theorem writeField_of_plain {field : Text} (h : ∀ c ∈ field, isPlain c = true) :
    writeField field = field := by
  refine if_neg fun hany => ?_
  obtain ⟨c, hc, hquotes⟩ := List.any_eq_true.1 hany
  have hplain := h c hc
  rw [isPlain, hquotes] at hplain
  cases hplain

/-- So are two or more such fields. -/
theorem line_of_plain {fields : List Text} (hlength : 2 ≤ fields.length)
    (h : ∀ field ∈ fields, ∀ c ∈ field, isPlain c = true) :
    line fields = [','].intercalate fields ++ ['\n'] := by
  have hfields : fields.map writeField = fields :=
    (List.map_congr_left fun field hfield => writeField_of_plain (h field hfield)).trans
      (List.map_id' fields)
  have hne : [','].intercalate fields ≠ [] := intercalate_ne_nil (List.cons_ne_nil ',' []) hlength
  simp only [line, hfields, if_neg hne]

/-! ## Lines as rows -/

theorem encode_intercalate (texts : List Text) :
    Utf8.encode ([','].intercalate texts) = [comma].intercalate (texts.map Utf8.encode) := by
  induction texts with
  | nil => rfl
  | cons text texts ih =>
    cases texts with
    | nil => rw [List.intercalate_singleton, List.map_singleton, List.intercalate_singleton]
    | cons next texts =>
      rw [List.intercalate_cons_cons, Utf8.encode_append, Utf8.encode_append, ih]
      exact List.intercalate_cons_cons.symm

/-- Every row has two or more fields, and no field needs quotes. -/
def AllPlain (rows : List (List Text)) : Prop :=
  ∀ fields ∈ rows, 2 ≤ fields.length ∧ ∀ field ∈ fields, ∀ c ∈ field, isPlain c = true

variable {rows : List (List Text)}

theorem isBare_encode (h : AllPlain rows) : IsBare (rows.map (List.map Utf8.encode)) := by
  refine List.forall_mem_map.2 fun fields hfields => ?_
  obtain ⟨hlength, hplain⟩ := h fields hfields
  refine ⟨by rwa [List.length_map], List.forall_mem_map.2 fun field hfield => ?_⟩
  exact canStandBare_encode (hplain field hfield)

/-- The lines of plain rows are written without quotes. -/
theorem encode_lines (h : AllPlain rows) :
    Utf8.encode (rows.flatMap line) = written (rows.map (List.map Utf8.encode)) := by
  induction rows with
  | nil => rfl
  | cons fields rows ih =>
    obtain ⟨⟨hlength, hplain⟩, hrows⟩ := List.forall_mem_cons.1 h
    rw [List.flatMap_cons, line_of_plain hlength hplain, Utf8.encode_append, Utf8.encode_append,
      encode_intercalate, ih hrows, List.map_cons, written_cons]
    rfl

/-- So they are rows of a table. -/
theorem rowsText_lines (h : AllPlain rows) :
    RowsText (rows.map (List.map Utf8.encode)) (Utf8.encode (rows.flatMap line)) := by
  rw [encode_lines h]
  exact rowsText_written (isBare_encode h)

/-! ## The table of a history -/

/-- The rows of a history as texts, the header first. -/
def textRows (records : List Record) : List (List Text) :=
  Column.all.map Column.name :: records.map fields

theorem text_eq_flatMap (records : List Record) :
    text records = (textRows records).flatMap line := by
  rw [text, textRows, List.flatMap_cons, List.flatMap_map]
  rfl

/-- The operands and the result of a record. -/
def numbers (record : Record) : List Binary64 :=
  [record.left, record.right, record.result]

/-- The characters of the fields are those of the numbers and of the operator. -/
theorem forall_mem_fields {P : Char → Prop} {record : Record}
    (hnumber : ∀ x ∈ numbers record, ∀ c ∈ Layout.field.print x, P c)
    (hsymbol : ∀ op : Operator, P op.symbol) : ∀ field ∈ fields record, ∀ c ∈ field, P c := by
  simp only [numbers, List.forall_mem_cons] at hnumber
  obtain ⟨hleft, hright, hresult, -⟩ := hnumber
  have hoperator := List.forall_mem_singleton.2 (hsymbol record.operator)
  exact List.forall_mem_cons.2 ⟨hleft, List.forall_mem_cons.2 ⟨hoperator,
    List.forall_mem_cons.2 ⟨hright, List.forall_mem_singleton.2 hresult⟩⟩⟩

theorem isPlain_of_mem_fields {record : Record} {field : Text} (h : field ∈ fields record) :
    ∀ c ∈ field, isPlain c = true := by
  have hnumber : ∀ x, ∀ c ∈ Layout.field.print x, isPlain c = true := fun x c hc =>
    isPlain_of_isNumberChar (Layout.isNumberChar_of_mem_print hc)
  have hsymbol : ∀ op : Operator, isPlain op.symbol = true := by
    intro op
    cases op <;> decide
  exact forall_mem_fields (fun x _ => hnumber x) hsymbol field h

theorem length_of_mem_textRows {records : List Record} {row : List Text}
    (h : row ∈ textRows records) : row.length = 4 := by
  rcases List.mem_cons.1 h with rfl | h
  · rfl
  · obtain ⟨record, -, rfl⟩ := List.mem_map.1 h
    rfl

theorem allPlain_textRows (records : List Record) : AllPlain (textRows records) := by
  intro row hrow
  have hlength := length_of_mem_textRows hrow
  refine ⟨by omega, fun field hfield c hc => ?_⟩
  rcases List.mem_cons.1 hrow with rfl | hrow
  · obtain ⟨column, -, rfl⟩ := List.mem_map.1 hfield
    exact isPlain_of_mem_name hc
  · obtain ⟨record, -, rfl⟩ := List.mem_map.1 hrow
    exact isPlain_of_mem_fields hfield c hc

theorem rendering_bytes (records : List Record) :
    Rendering ((textRows records).map (List.map Utf8.encode)) (bytes records) := by
  rw [bytes, text_eq_flatMap]
  exact .plain (rowsText_lines (allPlain_textRows records))

/-! ## Reading the rows -/

theorem texts?_encode (texts : List Text) : texts? (texts.map Utf8.encode) = some texts := by
  induction texts with
  | nil => rfl
  | cons text texts ih => rw [List.map_cons, texts?, Utf8.decode?_encode, ih]

theorem rowTexts_encode (field : Nat) (texts : List Text) :
    rowTexts field (texts.map Utf8.encode) = .ok texts := by
  induction texts generalizing field with
  | nil => rfl
  | cons text texts ih =>
    rw [List.map_cons, rowTexts, Utf8.decode?_encode]
    simp only [ih, Except.map]

/-- The written header names the columns in their order. -/
theorem header_encode :
    Header.ofFields ((Column.all.map Column.name).map Utf8.encode) =
      .named (Column.all.map some) := by
  rw [Header.ofFields, texts?_encode]
  decide

theorem number_print (field : Nat) (layout : Layout) (x : Binary64) :
    Draft.number field (layout.print x) = .ok x := by
  rw [Draft.number, Binary64.read?_print]

theorem operatorOf_symbol (op : Operator) : Draft.operatorOf [op.symbol] = .ok op := by
  rw [Draft.operatorOf, Operator.ofText?_symbol]

/-- The fields of a record make that record. -/
theorem recordOf_fields (record : Record) :
    recordOf (.named (Column.all.map some)) (fields record) = .ok record := by
  simp [recordOf, Column.all, fields, Draft.fill, Draft.put, Draft.has, Draft.blank, Draft.set,
    number_print, operatorOf_symbol, Except.map, Draft.record]

theorem readRow_fields (record : Record) :
    readRow (.named (Column.all.map some)) 4 ((fields record).map Utf8.encode) = .ok record := by
  rw [readRow, if_neg (by simp [fields]), rowTexts_encode]
  simp only [recordOf_fields]

theorem forall₂_readRow_fields (records : List Record) :
    List.Forall₂ (fun row record => readRow (.named (Column.all.map some)) 4 row = .ok record)
      ((records.map fields).map (List.map Utf8.encode)) records := by
  rw [List.forall₂_map_left_iff, List.forall₂_map_left_iff, List.forall₂_same]
  exact fun record _ => readRow_fields record

theorem readTable_textRows (records : List Record) :
    readTable ((textRows records).map (List.map Utf8.encode)) = .ok records := by
  rw [textRows, List.map_cons, readTable, header_encode]
  exact (readRows_eq_ok_iff _ _ 2 1 _ _).2 (forall₂_readRow_fields records)

theorem not_prefix_header (records : List Record) :
    ∀ row ∈ ((textRows records).map (List.map Utf8.encode)).head?, ∀ field ∈ row.head?,
      ¬byteOrderMark <+: field := by
  have hheader : ∀ field ∈ ((Column.all.map Column.name).map Utf8.encode).head?,
      ¬byteOrderMark <+: field := by decide
  intro row hrow
  obtain rfl := Option.some.inj hrow
  exact hheader

theorem read_bytes_eq_ok (records : List Record) :
    read (bytes records) .finished = .ok records := by
  have hread := read_eq_readTable (rendering_bytes records) (not_prefix_header records)
  rw [readTable_textRows, outcome_ok] at hread
  exact eq_ok_of_outcome hread

/-- What is written is read back.
1. An output that takes every byte is given the number of the records, and the bytes that it got
   read back as the records, in their order and bit for bit.
2. An output of limited room gets the same and is given the same, if that fits; and else it gets the
   first of those bytes, and the reason why it failed is given. -/
theorem read_write (records : List Record) :
    let whole := write .unlimited records
    (whole.result = .ok records.length ∧ read whole.output .finished = .ok records) ∧
      ∀ n reason, write (.limited n reason) records =
        if whole.output.length ≤ n then whole else ⟨whole.output.take n, .error reason⟩ := by
  intro whole
  have hwhole : whole = ⟨bytes records, .ok records.length⟩ := write_unlimited records
  rw [hwhole]
  exact ⟨⟨rfl, read_bytes_eq_ok records⟩, fun n reason => write_limited n reason records⟩

/-- Zeros of both signs, the least and the greatest magnitude, both infinities and a NaN. -/
example :
    let records : List Record :=
      [⟨.zero true, .add, .zero false, .nan⟩, ⟨.ofCode true 1, .divide, .ofCode false 1, .nan⟩,
        ⟨.ofCode false (infinityCode - 1), .multiply, .infinity true, .infinity false⟩]
    (write .unlimited records).result = .ok 3 ∧
      read (write .unlimited records).output .finished = .ok records := by
  decide +kernel

end Abacus.History
