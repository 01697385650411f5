import Abacus.History.Read
import Mathlib.Data.Multiset.Filter
import Mathlib.Logic.Function.Basic

/-!
# Columns and the record of a row

The fields of a row are taken from left to right, so the fault that is met first depends on the
order of the columns. Whether the row makes a record, and which, does not: it does exactly if each
column has one text and that text reads as the value of the record in that column
(`recordOf_named_eq_ok_iff`). Under a header that is no text, the columns are the first four fields
(`recordOf_unnamed_eq_ok_iff`).

A draft is seen through its values (`Draft.value`); `Draft.put_cases` says all that one field can
do to it, and `Draft.exists_fill_iff` is the induction over the fields.
-/

namespace Abacus

/-! ## Values of a column -/

namespace History.Column

/-- What a column holds. -/
def Value : Column → Type
  | left => Binary64
  | operator => Operator
  | right => Binary64
  | result => Binary64

instance : (column : Column) → DecidableEq column.Value
  | left => inferInstanceAs (DecidableEq Binary64)
  | operator => inferInstanceAs (DecidableEq Operator)
  | right => inferInstanceAs (DecidableEq Binary64)
  | result => inferInstanceAs (DecidableEq Binary64)

/-- The value that a text stands for in a column. -/
def read? : (column : Column) → Text → Option column.Value
  | left, text => Binary64.read? text
  | operator, text => Operator.ofText? text
  | right, text => Binary64.read? text
  | result, text => Binary64.read? text

@[simp]
theorem ofName?_name (column : Column) : ofName? column.name = some column := by
  cases column <;> decide

theorem ofName?_eq_some_iff {name : Text} {column : Column} :
    ofName? name = some column ↔ name = column.name := by
  constructor
  · intro h
    unfold ofName? at h
    have hname : column.name = name := by simpa using List.find?_some h
    exact hname.symm
  · rintro rfl
    exact ofName?_name column

end History.Column

/-- The value of a record in a column. -/
def Record.value (record : Record) : (column : History.Column) → column.Value
  | .left => record.left
  | .operator => record.operator
  | .right => record.right
  | .result => record.result

namespace History

/-! ## Drafts -/

namespace Draft

/-- The value that a draft has in a column. -/
def value (draft : Draft) : (column : Column) → Option column.Value
  | .left => draft.left
  | .operator => draft.operator
  | .right => draft.right
  | .result => draft.result

@[simp]
theorem value_blank (column : Column) : blank.value column = none := by
  cases column <;> rfl

theorem has_eq (draft : Draft) (column : Column) :
    draft.has column = (draft.value column).isSome := by
  cases column <;> rfl

/-- A draft makes a record exactly if it has all its values. -/
theorem record_eq_ok_iff {draft : Draft} {record : Record} :
    draft.record = .ok record ↔ ∀ column, draft.value column = some (record.value column) := by
  constructor
  · intro h column
    unfold Draft.record at h
    split at h <;> simp at h
    next left operator right result hleft hoperator hright hresult =>
      subst h
      cases column <;> assumption
  · intro h
    have hleft : draft.left = some record.left := h .left
    have hoperator : draft.operator = some record.operator := h .operator
    have hright : draft.right = some record.right := h .right
    have hresult : draft.result = some record.result := h .result
    simp [Draft.record, hleft, hoperator, hright, hresult]

/-- Gives a column a value. -/
def assign (draft : Draft) : (column : Column) → column.Value → Draft
  | .left, value => ⟨some value, draft.operator, draft.right, draft.result⟩
  | .operator, value => ⟨draft.left, some value, draft.right, draft.result⟩
  | .right, value => ⟨draft.left, draft.operator, some value, draft.result⟩
  | .result, value => ⟨draft.left, draft.operator, draft.right, some value⟩

theorem value_assign (draft : Draft) (column : Column) (value : column.Value) :
    (draft.assign column value).value = Function.update draft.value column (some value) := by
  funext other
  cases column <;> cases other <;> rfl

theorem set_of_read?_eq_some {column : Column} {text : Text} {value : column.Value}
    (h : column.read? text = some value) (draft : Draft) (field : Nat) :
    draft.set field text column = .ok (draft.assign column value) := by
  cases column <;> simp only [Column.read?] at h <;>
    simp [set, number, operatorOf, h, Except.map, assign, Functor.map]

theorem exists_set_of_read?_eq_none {column : Column} {text : Text}
    (h : column.read? text = none) (draft : Draft) (field : Nat) :
    ∃ error, draft.set field text column = .error error := by
  cases column <;> simp only [Column.read?] at h <;>
    simp [set, number, operatorOf, h, Except.map, Functor.map]

/-- All that a field can do to a draft: its column had no value and gets the one that the text
reads as, or else the field is a fault. -/
theorem put_cases (draft : Draft) (field : Nat) (text : Text) (column : Column) :
    (∃ value, draft.value column = none ∧ column.read? text = some value ∧
      draft.put field text column = .ok (draft.assign column value)) ∨
    (draft.value column ≠ none ∨ column.read? text = none) ∧
      ∃ error, draft.put field text column = .error error := by
  rw [put, has_eq]
  cases hvalue : draft.value column with
  | some value => exact .inr ⟨.inl (by simp), _, rfl⟩
  | none =>
    cases hread : column.read? text with
    | some value => exact .inl ⟨value, rfl, rfl, set_of_read?_eq_some hread draft field⟩
    | none => exact .inr ⟨.inr rfl, exists_set_of_read?_eq_none hread draft field⟩

end Draft

/-! ## Texts under columns -/

/-- The texts that stand under a column, in whatever order. -/
def textsUnder (column : Column) (cells : List (Option Column × Text)) : Multiset Text :=
  cells.filterMap fun cell => if cell.1 = some column then some cell.2 else none

@[simp]
theorem textsUnder_nil (column : Column) : textsUnder column [] = 0 := rfl

@[simp]
theorem textsUnder_cons_none (column : Column) (text : Text)
    (cells : List (Option Column × Text)) :
    textsUnder column ((none, text) :: cells) = textsUnder column cells := by
  simp [textsUnder]

@[simp]
theorem textsUnder_cons_self (column : Column) (text : Text)
    (cells : List (Option Column × Text)) :
    textsUnder column ((some column, text) :: cells) = text ::ₘ textsUnder column cells := by
  simp [textsUnder]

theorem textsUnder_cons_of_ne {column other : Column} (h : other ≠ column) (text : Text)
    (cells : List (Option Column × Text)) :
    textsUnder column ((some other, text) :: cells) = textsUnder column cells := by
  simp [textsUnder, h]

theorem textsUnder_of_perm {cells cells' : List (Option Column × Text)} (h : cells.Perm cells')
    (column : Column) : textsUnder column cells = textsUnder column cells' :=
  Multiset.coe_eq_coe.2 (h.filterMap _)

namespace Draft

/-- With some texts still to come in a column, the value of a record there: the draft has it and
no text comes, or the one text that comes reads as it. -/
def Leads (draft : Draft) (record : Record) (column : Column) (texts : Multiset Text) : Prop :=
  match draft.value column with
  | some value => texts = 0 ∧ value = record.value column
  | none => ∃ text, texts = {text} ∧ column.read? text = some (record.value column)

variable {draft : Draft} {record : Record} {column : Column} {texts : Multiset Text}

theorem leads_of_none (h : draft.value column = none) :
    draft.Leads record column texts ↔
      ∃ text, texts = {text} ∧ column.read? text = some (record.value column) := by
  simp [Leads, h]

theorem leads_zero :
    draft.Leads record column 0 ↔ draft.value column = some (record.value column) := by
  cases hvalue : draft.value column with
  | none => simp [Leads, hvalue]
  | some value => simp [Leads, hvalue]

theorem leads_cons {text : Text} :
    draft.Leads record column (text ::ₘ texts) ↔
      draft.value column = none ∧ texts = 0 ∧ column.read? text = some (record.value column) := by
  cases hvalue : draft.value column with
  | none =>
    simp only [Leads, hvalue, true_and]
    constructor
    · rintro ⟨other, htexts, hread⟩
      obtain ⟨rfl, rfl⟩ := (Multiset.singleton_eq_cons_iff _).1 htexts.symm
      exact ⟨rfl, hread⟩
    · rintro ⟨rfl, hread⟩
      exact ⟨text, rfl, hread⟩
  | some value => simp [Leads, hvalue]

theorem leads_assign_self {value : column.Value} :
    (draft.assign column value).Leads record column texts ↔
      texts = 0 ∧ value = record.value column := by
  simp [Leads, value_assign]

theorem leads_assign_of_ne {other : Column} (h : column ≠ other) (value : other.Value) :
    (draft.assign other value).Leads record column texts ↔ draft.Leads record column texts := by
  simp [Leads, value_assign, Function.update_of_ne h]

/-- Fields make a record with a draft exactly if each column is led to its value. The induction
is on the fields, with the draft as what those on the left have made. -/
theorem exists_fill_iff (draft : Draft) (record : Record) (field : Nat)
    (cells : List (Option Column × Text)) :
    (∃ draft', draft.fill field cells = .ok draft' ∧ draft'.record = .ok record) ↔
      ∀ column, draft.Leads record column (textsUnder column cells) := by
  induction cells generalizing draft field with
  | nil => simp [fill, record_eq_ok_iff, leads_zero]
  | cons cell cells ih =>
    obtain ⟨name, text⟩ := cell
    cases name with
    | none => simpa [fill] using ih draft (field + 1)
    | some column =>
      rcases draft.put_cases field text column with
        ⟨value, hnone, hread, hput⟩ | ⟨hfault, error, hput⟩
      · simp only [fill, hput, ih]
        refine forall_congr' fun other => ?_
        by_cases hother : other = column
        · subst hother
          simp [leads_assign_self, leads_cons, hnone, hread]
        · rw [leads_assign_of_ne hother, textsUnder_cons_of_ne (Ne.symm hother)]
      · simp only [fill, hput, reduceCtorEq, false_and, exists_false, false_iff]
        intro hleads
        have hcolumn := hleads column
        rw [textsUnder_cons_self, leads_cons] at hcolumn
        rcases hfault with hvalue | hread
        · exact hvalue hcolumn.1
        · simp [hread] at hcolumn

end Draft

/-! ## Records of texts -/

/-- Under a header with names, texts make a record exactly if each column has one text and that
text reads as the value of the record there. -/
theorem recordOf_named_eq_ok_iff {columns : List (Option Column)} {texts : List Text}
    {record : Record} :
    recordOf (.named columns) texts = .ok record ↔
      ∀ column, ∃ text, textsUnder column (columns.zip texts) = {text} ∧
        column.read? text = some (record.value column) := by
  have hfill := Draft.exists_fill_iff .blank record 0 (columns.zip texts)
  simp only [Draft.leads_of_none (Draft.value_blank _)] at hfill
  rw [← hfill, recordOf]
  cases Draft.blank.fill 0 (columns.zip texts) with
  | error error => simp
  | ok draft => simp

/-- In the order of the columns, a column has the one field in its place, if there is one. -/
theorem textsUnder_zip_all (texts : List Text) (column : Column) :
    textsUnder column ((Column.all.map some).zip texts) =
      (texts[Column.all.idxOf column]?.toList : Multiset Text) := by
  match texts with
  | [] => cases column <;> rfl
  | [_] => cases column <;> rfl
  | [_, _] => cases column <;> rfl
  | [_, _, _] => cases column <;> rfl
  | _ :: _ :: _ :: _ :: _ => cases column <;> rfl

/-- Under a header that is no text, texts make a record exactly if the first four read as its
values, in the order of the columns. -/
theorem recordOf_unnamed_eq_ok_iff {texts : List Text} {record : Record} :
    recordOf .unnamed texts = .ok record ↔
      ∀ column, texts[Column.all.idxOf column]?.bind column.read? = some (record.value column) := by
  have hone : ∀ column (text? : Option Text),
      (∃ text, (text?.toList : Multiset Text) = {text} ∧
        column.read? text = some (record.value column)) ↔
      text?.bind column.read? = some (record.value column) := by
    rintro column (_ | text)
    · simp
    · simp
  have hfill := Draft.exists_fill_iff .blank record 0 ((Column.all.map some).zip texts)
  simp only [Draft.leads_of_none (Draft.value_blank _), textsUnder_zip_all, hone] at hfill
  rw [recordOf]
  cases hdraft : Draft.blank.fill 0 ((Column.all.map some).zip texts) with
  | error error => simpa [hdraft] using hfill
  | ok draft =>
    simp only [hdraft, Except.ok.injEq, exists_eq_left'] at hfill
    rw [← hfill]
    by_cases hlength : texts.length < 4
    · have hlast : texts[Column.all.idxOf .result]? = none :=
        List.getElem?_eq_none (Nat.le_of_lt_succ hlength)
      simp only [hlength, if_true, reduceCtorEq, false_iff]
      intro hrecord
      simpa [hlast] using hfill.1 hrecord .result
    · simp [hlength]

end History

end Abacus
