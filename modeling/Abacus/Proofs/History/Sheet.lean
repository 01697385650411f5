import Abacus.Proofs.History.Columns
import Abacus.Proofs.History.Recovery
import Abacus.Proofs.History.RoundTrip
import Mathlib.Data.List.Zip
import Mathlib.Logic.Relation

/-!
# Columns in another order

A sheet is a table of texts with names over its columns. Its columns may change places, all rows
alike, and columns that no record needs may come and go (`Sheet.Edit`). None of this changes what
stands under a column of a record (`Sheet.texts_of_edit`), so none of it changes what is read: the
same records, or a failure at the same row, if perhaps for another fault (`read_edited`).
-/

namespace Abacus.History

open Table

/-- A table of texts under names. -/
structure Sheet where
  names : List Text
  rows : List (List Text)
  length_row : ∀ row ∈ rows, row.length = names.length

namespace Sheet

/-- The names and the rows in bytes. -/
def table (sheet : Sheet) : List (List Bytes) :=
  (sheet.names :: sheet.rows).map (List.map Utf8.encode)

/-! ## Changes of columns -/

/-- The second sheet has the columns of the first in an order of its own, the same in each row. -/
def Reorders (sheet sheet' : Sheet) : Prop :=
  ∃ places : List Nat, places.Perm (List.range sheet.names.length) ∧
    sheet'.names = places.map (sheet.names.getD · []) ∧
    sheet'.rows = sheet.rows.map fun row => places.map (row.getD · [])

/-- The second sheet has one column more, with a name that no column of a record has. -/
def Inserts (sheet sheet' : Sheet) : Prop :=
  ∃ (place : Nat) (name : Text) (texts : List Text), (∀ column : Column, name ≠ column.name) ∧
    place ≤ sheet.names.length ∧ texts.length = sheet.rows.length ∧
    sheet'.names = sheet.names.insertIdx place name ∧
    sheet'.rows = sheet.rows.zipWith (fun row text => row.insertIdx place text) texts

/-- A change of columns that leaves a record its columns. -/
inductive Edit (sheet sheet' : Sheet) : Prop
  | reorder (h : sheet.Reorders sheet')
  | insert (h : sheet.Inserts sheet')
  | delete (h : sheet'.Inserts sheet)

/-! ## What stands under a column -/

/-- The fields of a row, each with the column that it stands in. -/
def cells (sheet : Sheet) (row : List Text) : List (Option Column × Text) :=
  (sheet.names.map Column.ofName?).zip row

/-- What each row has under each column. -/
def texts (sheet : Sheet) : List (Column → Multiset Text) :=
  sheet.rows.map fun row column => textsUnder column (sheet.cells row)

/-- Some places of a row hold the fields at them, if the places are all in another order. -/
theorem zip_perm {places : List Nat} {names row : List Text}
    (h : places.Perm (List.range names.length)) (hrow : row.length = names.length) :
    (((places.map (names.getD · [])).map Column.ofName?).zip (places.map (row.getD · []))).Perm
      ((names.map Column.ofName?).zip row) := by
  have hzip : (names.map Column.ofName?).zip row =
      (List.range names.length).map fun i => (Column.ofName? (names.getD i []), row.getD i []) := by
    refine List.ext_getElem (by simp [hrow]) fun i hi hi' => ?_
    have hnames : i < names.length := by simpa using hi'
    simp [hnames, hrow ▸ hnames]
  rw [hzip, List.map_map, List.zip_map']
  exact h.map _

theorem texts_of_reorders {sheet sheet' : Sheet} (h : sheet.Reorders sheet') :
    sheet'.texts = sheet.texts := by
  obtain ⟨places, hplaces, hnames, hrows⟩ := h
  rw [texts, texts, hrows, List.map_map]
  refine List.map_congr_left fun row hrow => funext fun column => ?_
  rw [Function.comp_apply, cells, hnames]
  exact textsUnder_of_perm (zip_perm hplaces (sheet.length_row row hrow)) column

theorem zip_insertIdx {α β : Type} {l : List α} {r : List β} (h : l.length = r.length) (i : Nat)
    (a : α) (b : β) : (l.insertIdx i a).zip (r.insertIdx i b) = (l.zip r).insertIdx i (a, b) := by
  induction i generalizing l r with
  | zero => simp
  | succ i ih =>
    cases l with
    | nil => simp [List.length_eq_zero_iff.1 h.symm]
    | cons x l =>
      cases r with
      | nil => simp at h
      | cons y r => simpa using ih (by simpa using h)

/-- A field in a column that no record has adds nothing under those that records have. -/
theorem textsUnder_insertIdx {place : Nat} {names row : List Text} (hplace : place ≤ names.length)
    (hrow : row.length = names.length) {name : Text} (hname : ∀ column : Column, name ≠ column.name)
    (text : Text) (column : Column) :
    textsUnder column (((names.insertIdx place name).map Column.ofName?).zip
        (row.insertIdx place text)) =
      textsUnder column ((names.map Column.ofName?).zip row) := by
  have hnone : Column.ofName? name = none := by
    refine Option.eq_none_iff_forall_ne_some.2 fun column hcolumn => ?_
    exact hname column (Column.ofName?_eq_some_iff.1 hcolumn)
  rw [List.map_insertIdx, hnone, zip_insertIdx (by simp [hrow])]
  have hperm := List.perm_insertIdx (none, text) ((names.map Column.ofName?).zip row)
    (i := place) (by simpa [hrow] using hplace)
  rw [textsUnder_of_perm hperm, textsUnder_cons_none]

theorem texts_of_inserts {sheet sheet' : Sheet} (h : sheet.Inserts sheet') :
    sheet'.texts = sheet.texts := by
  obtain ⟨place, name, added, hname, hplace, hlength, hnames, hrows⟩ := h
  have hrow : ∀ row ∈ sheet.rows, ∀ text column,
      textsUnder column (sheet'.cells (row.insertIdx place text)) =
        textsUnder column (sheet.cells row) := by
    intro row hmem text column
    rw [cells, hnames]
    exact textsUnder_insertIdx hplace (sheet.length_row row hmem) hname text column
  refine List.ext_getElem (by simp [texts, hrows, hlength]) fun i _ _ => ?_
  simp only [texts, hrows, List.getElem_map, List.getElem_zipWith]
  exact funext fun column => hrow _ (List.getElem_mem _) _ column

/-- A change of columns leaves what stands under the columns of a record. -/
theorem texts_of_edit {sheet sheet' : Sheet} (h : sheet.Edit sheet') :
    sheet'.texts = sheet.texts := by
  cases h with
  | reorder h => exact texts_of_reorders h
  | insert h => exact texts_of_inserts h
  | delete h => exact (texts_of_inserts h).symm

theorem texts_of_edits {sheet sheet' : Sheet} (h : Relation.ReflTransGen Edit sheet sheet') :
    sheet'.texts = sheet.texts := by
  induction h with
  | refl => rfl
  | tail _ hedit ih => exact (texts_of_edit hedit).trans ih

end Sheet

/-! ## What is read -/

/-- Two results give the same records, or none at all. -/
def Agree (result result' : Except ValueError Record) : Prop :=
  ∀ record, result = .ok record ↔ result' = .ok record

/-- Results that agree are the same records up to the end, or up to a fault in both. -/
theorem first_fault_of_agree {results results' : List (Except ValueError Record)}
    (h : List.Forall₂ Agree results results') :
    (∃ records : List Record, results = records.map .ok ∧ results' = records.map .ok) ∨
      ∃ (records : List Record) (fault fault' : ValueError)
        (after after' : List (Except ValueError Record)),
        results = records.map .ok ++ .error fault :: after ∧
        results' = records.map .ok ++ .error fault' :: after' := by
  induction h with
  | nil => exact .inl ⟨[], rfl, rfl⟩
  | @cons result result' others others' hagree _ ih =>
    cases hresult : result with
    | error fault =>
      cases hresult' : result' with
      | error fault' => exact .inr ⟨[], fault, fault', others, others', rfl, rfl⟩
      | ok record =>
        have hok := (hagree record).2 hresult'
        rw [hresult] at hok
        cases hok
    | ok record =>
      rw [(hagree record).1 hresult]
      rcases ih with ⟨records, rfl, rfl⟩ | ⟨records, fault, fault', after, after', rfl, rfl⟩
      · exact .inl ⟨record :: records, rfl, rfl⟩
      · exact .inr ⟨record :: records, fault, fault', after, after', rfl, rfl⟩

namespace Sheet

/-- What each row makes under the names. -/
def results (sheet : Sheet) : List (Except ValueError Record) :=
  sheet.rows.map (recordOf (.named (sheet.names.map Column.ofName?)))

/-- What the rows make hangs on what stands under the columns alone. -/
theorem agree_of_texts_eq {sheet sheet' : Sheet} (h : sheet.texts = sheet'.texts) :
    List.Forall₂ Agree sheet.results sheet'.results := by
  rw [texts, texts, ← List.forall₂_eq_eq_eq, List.forall₂_map_left_iff,
    List.forall₂_map_right_iff] at h
  rw [results, results, List.forall₂_map_left_iff, List.forall₂_map_right_iff]
  refine h.imp fun row row' hrow record => ?_
  simp only [recordOf_named_eq_ok_iff]
  exact forall_congr' fun column => by
    rw [show textsUnder column ((sheet.names.map Column.ofName?).zip row) =
      textsUnder column ((sheet'.names.map Column.ofName?).zip row') from congrFun hrow column]

end Sheet

/-- What the rows of a rendering make is what the rows of its table make. -/
theorem rowResults_of_rendering {header : List Bytes} {rows : List (List Bytes)} {bytes : Bytes}
    (h : Rendering (header :: rows) bytes)
    (hmark : ∀ field ∈ header.head?, ¬byteOrderMark <+: field) :
    rowResults bytes = rows.map (readRow (.ofFields header) header.length) := by
  have hrows := unplaced_rows h fun fields hfields => by
    obtain rfl := Option.some.inj hfields
    exact hmark
  rw [numbered, List.map_eq_cons_iff] at hrows
  obtain ⟨row, others, hbytes, hrow, hothers⟩ := hrows
  obtain rfl : row.fields = header := congrArg Row.fields hrow
  rw [rowResults, hbytes, ← results_numbered _ _ 1 rows, ← hothers]
  simp [History.results, Row.unplaced]

/-- A row of a sheet is read as its texts. -/
theorem readRow_encode {names row : List Text} (h : row.length = names.length) :
    readRow (.ofFields (names.map Utf8.encode)) (names.map Utf8.encode).length
        (row.map Utf8.encode) =
      (recordOf (.named (names.map Column.ofName?)) row).mapError .value := by
  rw [readRow, if_neg (by simp [h]), rowTexts_encode, Header.ofFields, texts?_encode]
  simp only
  cases recordOf (.named (names.map Column.ofName?)) row <;> rfl

/-- The lines of a sheet are a rendering, if it has two columns or more and no field needs
quotes. -/
theorem Sheet.rendering_lines (sheet : Sheet)
    (h : ∀ fields ∈ sheet.names :: sheet.rows,
      2 ≤ fields.length ∧ ∀ field ∈ fields, field.all isPlain = true) :
    Rendering sheet.table (Utf8.encode ((sheet.names :: sheet.rows).flatMap line)) :=
  .plain (rowsText_lines (by simpa only [AllPlain, List.all_eq_true] using h))

/-- Only a text with the mark as its first character begins with its bytes. -/
theorem head?_of_marked {text : Text} (h : byteOrderMark <+: Utf8.encode text) :
    text.head? = some '\uFEFF' := by
  obtain ⟨rest, hrest⟩ := h
  have hmark : byteOrderMark = Utf8.encodeChar '\uFEFF' := by decide
  have hpieces := Utf8.pieces_encode text
  rw [← hrest, hmark, Utf8.pieces_encodeChar_append] at hpieces
  cases text with
  | nil => simp at hpieces
  | cons c text =>
    obtain ⟨hc, -⟩ : '\uFEFF' = c ∧ _ := by simpa using hpieces
    exact congrArg some hc.symm

theorem rowResults_of_sheet {sheet : Sheet} {bytes : Bytes} (h : Rendering sheet.table bytes)
    (hmark : ∀ name ∈ sheet.names.head?, name.head? ≠ some '\uFEFF') :
    rowResults bytes = sheet.results.map (Except.mapError .value) := by
  have hfirst : ∀ field ∈ (sheet.names.map Utf8.encode).head?, ¬byteOrderMark <+: field := by
    intro field hfield hprefix
    rw [List.head?_map] at hfield
    obtain ⟨name, hname, rfl⟩ := Option.map_eq_some_iff.1 hfield
    exact hmark name hname (head?_of_marked hprefix)
  rw [rowResults_of_rendering h hfirst, Sheet.results, List.map_map, List.map_map]
  exact List.map_congr_left fun row hrow => readRow_encode (sheet.length_row row hrow)

section Read

variable {sheet : Sheet} {bytes : Bytes} {records : List Record} {fault : ValueError}
  {after : List (Except ValueError Record)}

theorem read_of_results_ok (h : Rendering sheet.table bytes)
    (hmark : ∀ name ∈ sheet.names.head?, name.head? ≠ some '\uFEFF')
    (hresults : sheet.results = records.map .ok) : read bytes .finished = .ok records := by
  rw [read_eq_ok_iff, rowResults_of_sheet h hmark, hresults]
  simp [Except.mapError]

theorem read_of_results_error (h : Rendering sheet.table bytes)
    (hmark : ∀ name ∈ sheet.names.head?, name.head? ≠ some '\uFEFF')
    (hresults : sheet.results = records.map .ok ++ .error fault :: after) :
    ∃ start, read bytes .finished =
      .error ⟨records.length + 2, .row (records.length + 1) start (.value fault)⟩ := by
  have hfault : rowResults bytes = records.map .ok ++
      .error (.value fault) :: after.map (Except.mapError .value) := by
    rw [rowResults_of_sheet h hmark, hresults]
    simp [Except.mapError]
  obtain ⟨row, -, hread⟩ := read_eq_error hfault
  exact ⟨row.start, hread⟩

end Read

/-- Whatever the order of its columns, and whatever columns it has that no record needs, a sheet
reads as the same records, or fails at the same row. -/
theorem read_edited {sheet sheet' : Sheet} (h : Relation.ReflTransGen Sheet.Edit sheet sheet')
    (hmark : ∀ name ∈ sheet.names.head?, name.head? ≠ some '\uFEFF')
    (hmark' : ∀ name ∈ sheet'.names.head?, name.head? ≠ some '\uFEFF') {first second : Bytes}
    (hfirst : Rendering sheet.table first) (hsecond : Rendering sheet'.table second) :
    (∃ records, read first .finished = .ok records ∧ read second .finished = .ok records) ∨
      ∃ n start start' fault fault',
        read first .finished = .error ⟨n + 2, .row (n + 1) start (.value fault)⟩ ∧
        read second .finished = .error ⟨n + 2, .row (n + 1) start' (.value fault')⟩ := by
  rcases first_fault_of_agree (Sheet.agree_of_texts_eq (Sheet.texts_of_edits h).symm) with
    ⟨records, hok, hok'⟩ | ⟨records, fault, fault', after, after', herror, herror'⟩
  · exact .inl ⟨records, read_of_results_ok hfirst hmark hok,
      read_of_results_ok hsecond hmark' hok'⟩
  · obtain ⟨start, hread⟩ := read_of_results_error hfirst hmark herror
    obtain ⟨start', hread'⟩ := read_of_results_error hsecond hmark' herror'
    exact .inr ⟨records.length, start, start', fault, fault', hread, hread'⟩

/-- A further column in the middle and the others turned round: each sheet fails at its second
row, the one for a number and the other for the operator. -/
theorem read_edited_turned :
    ∃ n start start' fault fault',
      read (Utf8.encode "operand1,operation,operand2,result\n2,+,3,5\nx,^,1,1\n".toList)
        .finished = .error ⟨n + 2, .row (n + 1) start (.value fault)⟩ ∧
      read (Utf8.encode
        "result,operation,note,operand2,operand1\n5,+,a,3,2\n1,^,b,1,x\n".toList)
        .finished = .error ⟨n + 2, .row (n + 1) start' (.value fault')⟩ := by
  let sheet : Sheet := ⟨Column.all.map Column.name,
    [["2".toList, "+".toList, "3".toList, "5".toList],
      ["x".toList, "^".toList, "1".toList, "1".toList]], by decide⟩
  let wide : Sheet := ⟨sheet.names.insertIdx 2 "note".toList,
    sheet.rows.zipWith (fun row text => row.insertIdx 2 text) ["a".toList, "b".toList], by decide⟩
  let turned : Sheet := ⟨[4, 1, 2, 3, 0].map (wide.names.getD · []),
    wide.rows.map fun row => [4, 1, 2, 3, 0].map (row.getD · []), by decide⟩
  have hinsert : sheet.Edit wide :=
    .insert ⟨2, "note".toList, ["a".toList, "b".toList], by rintro (_ | _ | _ | _) <;> decide,
      by decide, rfl, rfl, rfl⟩
  have hreorder : wide.Edit turned := .reorder ⟨[4, 1, 2, 3, 0], by decide, rfl, rfl⟩
  have hread : read (Utf8.encode
      "operand1,operation,operand2,result\n2,+,3,5\nx,^,1,1\n".toList) .finished =
      .error ⟨3, .row 2 ⟨3, 43⟩ (.value (.malformedNumber 0))⟩ := by decide +kernel
  have hlines : Rendering sheet.table _ := sheet.rendering_lines (by decide +kernel)
  have hlines' : Rendering turned.table _ := turned.rendering_lines (by decide +kernel)
  refine (read_edited ((Relation.ReflTransGen.single hinsert).tail hreorder) (by decide)
    (by decide) hlines hlines').resolve_left ?_
  rintro ⟨records, hok, -⟩
  cases hread.symm.trans hok

end Abacus.History
