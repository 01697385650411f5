import Abacus.Proofs.History.BrokenStream
import Abacus.Proofs.History.Columns

/-!
# What the header decides

The header is not judged when it is read, but the rows judge it: a record is only made of a row if
each name of a column stands in the header once, and then its values come from the fields under
those names. A header that is not UTF-8 has no names, and the values come from the first four
fields whatever stands in it. `read_by_header`: there is no third way to read a record.
-/

namespace Abacus.History

open Table

/-! ## The one text of a column -/

section Names

variable {names texts : List Text} {column : Column}

theorem card_textsUnder (h : texts.length = names.length) :
    (textsUnder column ((names.map Column.ofName?).zip texts)).card =
      names.count column.name := by
  induction names generalizing texts with
  | nil => rfl
  | cons name names ih =>
    cases texts with
    | nil => simp at h
    | cons text texts =>
      have htail := ih (by simpa using h)
      rw [List.map_cons, List.zip_cons_cons, List.count_cons]
      cases hname : Column.ofName? name with
      | none =>
        have hne : name ≠ column.name := by
          rintro rfl
          simp at hname
        simp [htail, hne]
      | some other =>
        obtain rfl := Column.ofName?_eq_some_iff.1 hname
        by_cases hother : other = column
        · simp [hother, htail]
        · have hne : other.name ≠ column.name := by
            intro heq
            have hname' := Column.ofName?_eq_some_iff.2 heq
            simp [hother] at hname'
          rw [textsUnder_cons_of_ne hother, htail]
          simp [hne]

theorem mem_textsUnder {i : Nat} {text : Text} (hname : names[i]? = some column.name)
    (htext : texts[i]? = some text) :
    text ∈ textsUnder column ((names.map Column.ofName?).zip texts) := by
  have hcell : (some column, text) ∈ (names.map Column.ofName?).zip texts := by
    refine List.mem_iff_getElem?.2 ⟨i, ?_⟩
    simp [List.getElem?_zip_eq_some, hname, htext]
  exact Multiset.mem_coe.2 (List.mem_filterMap.2 ⟨_, hcell, by simp⟩)

/-- Texts that make a record have each name once, and the record has the value of the text under
that name. -/
theorem count_and_value_of_recordOf {record : Record} (hlength : texts.length = names.length)
    (h : recordOf (.named (names.map Column.ofName?)) texts = .ok record) (column : Column) :
    names.count column.name = 1 ∧ ∀ i : Nat, names[i]? = some column.name →
      texts[i]?.bind column.read? = some (record.value column) := by
  obtain ⟨text, htexts, hread⟩ := recordOf_named_eq_ok_iff.1 h column
  constructor
  · rw [← card_textsUnder hlength, htexts, Multiset.card_singleton]
  · intro i hname
    obtain ⟨hi, -⟩ := List.getElem?_eq_some_iff.1 hname
    have htext : texts[i]? = some texts[i] := List.getElem?_eq_getElem (hlength ▸ hi)
    have hmem := mem_textsUnder hname htext
    rw [htexts, Multiset.mem_singleton] at hmem
    simp [htext, hmem, hread]

end Names

/-! ## Rows -/

/-- The value that a column has in a field of a row, if the field is there and reads as one. -/
def valueAt (fields : List Bytes) (i : Nat) (column : Column) : Option column.Value :=
  (fields[i]?.bind Utf8.decode?).bind column.read?

theorem map_decode?_of_rowTexts {field : Nat} {fields : List Bytes} {texts : List Text}
    (h : rowTexts field fields = .ok texts) : fields.map Utf8.decode? = texts.map some := by
  induction fields generalizing field texts with
  | nil =>
    cases h
    rfl
  | cons bytes fields ih =>
    rw [rowTexts] at h
    cases hdecode : Utf8.decode? bytes with
    | none => simp [hdecode] at h
    | some text =>
      cases hrest : rowTexts (field + 1) fields with
      | error error => simp [hdecode, hrest, Except.map] at h
      | ok others =>
        obtain rfl : text :: others = texts := by simpa [hdecode, hrest, Except.map] using h
        simp [hdecode, ih hrest]

theorem length_texts? {fields : List Bytes} {texts : List Text} (h : texts? fields = some texts) :
    texts.length = fields.length := by
  induction fields generalizing texts with
  | nil =>
    cases h
    rfl
  | cons bytes fields ih =>
    rw [texts?] at h
    split at h
    · next text others hdecode hrest =>
      cases h
      simp [ih hrest]
    · cases h

/-- A row that makes a record has the width of the header, and its texts make the record. -/
theorem exists_texts_of_readRow {header : Header} {width : Nat} {fields : List Bytes}
    {record : Record} (h : readRow header width fields = .ok record) :
    ∃ texts : List Text, texts.length = width ∧
      (∀ i : Nat, fields[i]?.bind Utf8.decode? = texts[i]?) ∧
      recordOf header texts = .ok record := by
  rw [readRow] at h
  split at h
  · cases h
  · next hwidth =>
    split at h
    · cases h
    · next texts htexts =>
      have hmap := map_decode?_of_rowTexts htexts
      have hlength : fields.length = texts.length := by simpa using congrArg List.length hmap
      refine ⟨texts, by omega, fun i => ?_, ?_⟩
      · have hget : fields[i]?.map Utf8.decode? = texts[i]?.map some := by
          simpa using congrArg (·[i]?) hmap
        simpa [Option.bind_map, Function.comp_def] using congrArg (Option.bind · id) hget
      · split at h
        · next record' hrecord =>
          cases h
          exact hrecord
        · cases h

/-- Under a header with names, a row that makes a record shows that each name stands there once,
and the record has its values from the fields under those names. -/
theorem count_and_valueAt_of_named {names : List Text} {fields : List Bytes} {record : Record}
    (h : readRow (.named (names.map Column.ofName?)) names.length fields = .ok record)
    (column : Column) :
    names.count column.name = 1 ∧ ∀ i : Nat, names[i]? = some column.name →
      valueAt fields i column = some (record.value column) := by
  obtain ⟨texts, hlength, htexts, hrecord⟩ := exists_texts_of_readRow h
  obtain ⟨hcount, hvalue⟩ := count_and_value_of_recordOf hlength hrecord column
  exact ⟨hcount, fun i hname => by rw [valueAt, htexts, hvalue i hname]⟩

theorem valueAt_of_unnamed {width : Nat} {fields : List Bytes} {record : Record}
    (h : readRow .unnamed width fields = .ok record) (column : Column) :
    valueAt fields (Column.all.idxOf column) column = some (record.value column) := by
  obtain ⟨texts, -, htexts, hrecord⟩ := exists_texts_of_readRow h
  rw [valueAt, htexts, recordOf_unnamed_eq_ok_iff.1 hrecord column]

/-! ## Tables -/

/-- Records are those of the rows behind the header, one each. -/
theorem exists_rows_of_read {bytes : Bytes} {ending : Ending} {records : List Record}
    (h : read bytes ending = .ok records) (hne : records ≠ []) :
    ∃ header others, rows bytes = header :: others ∧
      List.Forall₂ (fun row record =>
        readRow (.ofFields header.fields) header.fields.length row.fields = .ok record)
        others records := by
  cases ending with
  | broken reason => exact absurd (eq_nil_of_read_broken reason h) hne
  | finished =>
    have hresults := read_eq_ok_iff.1 h
    rw [rowResults] at hresults
    cases hrows : rows bytes with
    | nil => simp [hrows, hne, eq_comm] at hresults
    | cons header others =>
      refine ⟨header, others, rfl, ?_⟩
      simpa [hrows, results, ← List.forall₂_eq_eq_eq] using hresults

/-- The values of a record come from the fields of a row under their names. -/
def ByName (names : List Text) (row : Row) (record : Record) : Prop :=
  ∀ (column : Column) (i : Nat), names[i]? = some column.name →
    valueAt row.fields i column = some (record.value column)

/-- The values of a record come from the first four fields of a row. -/
def ByPlace (row : Row) (record : Record) : Prop :=
  ∀ column : Column,
    valueAt row.fields (Column.all.idxOf column) column = some (record.value column)

/-- A table whose header is UTF-8 is only read as records if each name of a column stands in the
header once, and then each value of a record comes from the field under its name. A table whose
header is not UTF-8 is read by the places of the columns. -/
theorem read_by_header {bytes : Bytes} {ending : Ending} {records : List Record}
    (h : read bytes ending = .ok records) (hne : records ≠ []) :
    ∃ header others, rows bytes = header :: others ∧
      ((∃ names, texts? header.fields = some names ∧
          (∀ column : Column, names.count column.name = 1) ∧
          List.Forall₂ (ByName names) others records) ∨
        texts? header.fields = none ∧ List.Forall₂ ByPlace others records) := by
  obtain ⟨header, others, hrows, hall⟩ := exists_rows_of_read h hne
  refine ⟨header, others, hrows, ?_⟩
  cases htexts : texts? header.fields with
  | none =>
    rw [Header.ofFields, htexts] at hall
    exact .inr ⟨rfl, hall.imp fun _ _ hrow => valueAt_of_unnamed hrow⟩
  | some names =>
    rw [Header.ofFields, htexts, ← length_texts? htexts] at hall
    refine .inl ⟨names, rfl, ?_, hall.imp fun _ _ hrow column =>
      (count_and_valueAt_of_named hrow column).2⟩
    cases hall with
    | nil => exact absurd rfl hne
    | cons hrow _ => exact fun column => (count_and_valueAt_of_named hrow column).1

/-- The columns in another order and one more. -/
theorem read_by_header_turned :
    let bytes := Utf8.encode "result,note,operand2,operation,operand1\n1,a,-0,+,1\n".toList
    let one := Binary64.ofCode false 0x3FF0000000000000
    let records : List Record := [⟨one, .add, .zero true, one⟩]
    read bytes .finished = .ok records ∧
      ∃ header others, rows bytes = header :: others ∧
        ((∃ names, texts? header.fields = some names ∧
            (∀ column : Column, names.count column.name = 1) ∧
            List.Forall₂ (ByName names) others records) ∨
          texts? header.fields = none ∧ List.Forall₂ ByPlace others records) := by
  intro bytes one records
  have hread : read bytes .finished = .ok records := by decide +kernel
  exact ⟨hread, read_by_header hread (by simp [records])⟩

/-- A header with each name once, but with a byte in a further field that is not UTF-8: the name
of the first operand stands over the third field, and the record has the first one. -/
theorem read_damaged_header :
    let bytes := Utf8.encode "operand2,operation,operand1,result,note".toList ++ [0xFF, 0x0A] ++
      Utf8.encode "1,-,3,2,x\n".toList
    let record : Record := ⟨.ofCode false 0x3FF0000000000000, .subtract,
      .ofCode false 0x4008000000000000, .ofCode false 0x4000000000000000⟩
    read bytes .finished = .ok [record] ∧
      ∃ header fields, (rows bytes).map Row.fields = [header, fields] ∧
        header[2]? = some (Utf8.encode Column.left.name) ∧
        valueAt fields 2 .left ≠ some (record.value .left) := by
  intro bytes record
  exact ⟨by decide +kernel,
    ["operand2", "operation", "operand1", "result"].map (Utf8.encode ·.toList) ++
      [Utf8.encode "note".toList ++ [0xFF]],
    ["1", "-", "3", "2", "x"].map (Utf8.encode ·.toList),
    by decide +kernel, by decide, by decide +kernel⟩

end Abacus.History
