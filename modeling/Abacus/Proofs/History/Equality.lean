import Abacus.Proofs.History.Plain
import Abacus.Proofs.Session.Replay

/-!
# Histories that read back equal

Numbers are compared as numbers, so a NaN is not even equal to itself. A written history therefore
reads back as an equal one exactly if it holds no NaN (`readsEqual_iff`), which is if its text
does not show one (`shows_nan_iff`). A calculator records none, whatever lines it is given:
`evaluateAll_readsEqual`.
-/

namespace Abacus

/-! ## Equality of numbers -/

theorem Binary64.numEq_self_iff {x : Binary64} : x.numEq x = true ↔ ¬.nan = x := by
  cases x <;> simp [numEq]

theorem Binary64.nan_ne_of_isFinite {x : Binary64} (h : x.isFinite = true) : ¬.nan = x := by
  rintro rfl
  cases h

theorem Binary64.isFinite_or_infinity {x : Binary64} (h : x ≠ .nan) :
    x.isFinite = true ∨ ∃ negative, x = .infinity negative := by
  cases x with
  | nan => exact absurd rfl h
  | infinity negative => exact .inr ⟨negative, rfl⟩
  | finite negative code => exact .inl rfl

namespace History

theorem numEq_self_iff {record : Record} :
    record.numEq record = true ↔ .nan ∉ numbers record := by
  simp only [Record.numEq, numbers, Bool.and_eq_true, Binary64.numEq_self_iff, beq_self_eq_true,
    and_true, and_assoc, List.mem_cons, List.not_mem_nil, or_false, not_or]

theorem isEqv_self_iff {records : List Record} :
    records.isEqv records Record.numEq = true ↔ ∀ record ∈ records, .nan ∉ numbers record := by
  induction records with
  | nil => simp [List.isEqv]
  | cons record records ih =>
    rw [List.isEqv, Bool.and_eq_true, ih, numEq_self_iff, List.forall_mem_cons]

/-- A history is read back as a list of records that are equal by their numbers. -/
def ReadsEqual (records : List Record) : Prop :=
  ∃ reread, read (bytes records) .finished = .ok reread ∧
    reread.isEqv records Record.numEq = true

/-- A NaN is all that a history can have lost when it is read back. -/
theorem readsEqual_iff {records : List Record} :
    ReadsEqual records ↔ ∀ record ∈ records, .nan ∉ numbers record := by
  rw [← isEqv_self_iff]
  constructor
  · rintro ⟨reread, hread, heqv⟩
    rw [read_bytes_eq_ok] at hread
    rwa [← Except.ok.inj hread] at heqv
  · exact fun heqv => ⟨records, read_bytes_eq_ok records, heqv⟩

/-! ## The name of a NaN -/

theorem isInfix_text {records : List Record} {record : Record} (h : record ∈ records)
    {x : Binary64} (hx : x ∈ numbers record) : Layout.field.print x <:+: text records := by
  have hfield : Layout.field.print x ∈ fields record := by
    simp only [numbers, List.mem_cons, List.not_mem_nil, or_false] at hx
    rcases hx with rfl | rfl | rfl <;> simp [fields]
  have hrow : fields record ∈ textRows records :=
    List.mem_cons_of_mem _ (List.mem_map_of_mem h)
  obtain ⟨hlength, hplain⟩ := allPlain_textRows records _ hrow
  have hline : line (fields record) <:+: text records := by
    rw [text_eq_flatMap]
    exact List.infix_of_mem_flatten (List.mem_map_of_mem hrow)
  rw [line_of_plain hlength hplain] at hline
  exact (isInfix_intercalate hfield).trans ((List.prefix_append _ _).isInfix.trans hline)

theorem capitalN_notMem_text {records : List Record}
    (h : ∀ record ∈ records, .nan ∉ numbers record) : 'N' ∉ text records := by
  have hname : ∀ column : Column, 'N' ∉ column.name := by
    intro column
    cases column <;> decide
  have hsymbol : ∀ op : Operator, op.symbol ≠ 'N' := by
    intro op
    cases op <;> decide
  have hnumber : ∀ record ∈ records, ∀ x ∈ numbers record, ∀ c ∈ Layout.field.print x, c ≠ 'N' := by
    rintro record hrecord x hx c hc rfl
    have hnan : x ≠ .nan := fun hnan => h record hrecord (hnan ▸ hx)
    have hfigure := Layout.isFigure_of_mem_print hnan hc
    cases hfigure
  have hall := forall_mem_text (P := (· ≠ 'N')) (by decide) (by decide)
    (fun column c hc hcapital => hname column (hcapital ▸ hc)) hsymbol hnumber
  exact fun hmem => hall 'N' hmem rfl

/-- A written history shows a NaN exactly if it holds one. -/
theorem shows_nan_iff {records : List Record} :
    Utf8.encode "NaN".toList <:+: bytes records ↔ ∃ record ∈ records, .nan ∈ numbers record := by
  constructor
  · intro hshows
    have hbyte : (0x4E : UInt8) ∈ bytes records := hshows.subset (by decide)
    -- The first letter is enough: no number and no name but that of a NaN has a capital N.
    have hchar : 'N' ∈ text records := Utf8.mem_of_mem_encode hbyte (by decide)
    by_contra hnone
    exact capitalN_notMem_text (fun record hrecord hnan => hnone ⟨record, hrecord, hnan⟩) hchar
  · rintro ⟨record, hrecord, hnan⟩
    obtain ⟨before, after, htext⟩ := isInfix_text hrecord hnan
    refine ⟨Utf8.encode before, Utf8.encode after, ?_⟩
    rw [bytes, ← htext, Utf8.encode_append, Utf8.encode_append]
    rfl

/-! ## Calculators -/

theorem nan_notMem_numbers {record : Record} (h : record.IsSound) : .nan ∉ numbers record := by
  simp only [numbers, List.mem_cons, List.not_mem_nil, or_false, not_or]
  exact ⟨Binary64.nan_ne_of_isFinite h.left, Binary64.nan_ne_of_isFinite h.right,
    h.result_ne_nan.symm⟩

/-- No calculator has a NaN in its ledger.
1. Whatever lines a new calculator evaluates, the operands of each record are finite, and its
   result, which is that of its operator on them, is finite or an infinity; the history that is
   written of them shows no NaN, and reads back as an equal list.
2. Of any records at all, the history shows a NaN exactly if one of them holds one, and exactly then
   it does not read back as an equal list. -/
theorem evaluateAll_readsEqual :
    (∀ lines : List Text,
      let records := (Calculator.new.evaluateAll lines).calculator.ledger.toList
      (∀ record ∈ records, record.left.isFinite = true ∧ record.right.isFinite = true ∧
          record.operator.apply record.left record.right = some record.result ∧
          (record.result.isFinite = true ∨ ∃ negative, record.result = .infinity negative)) ∧
        ¬Utf8.encode "NaN".toList <:+: bytes records ∧ ReadsEqual records) ∧
      ∀ records : List Record,
        (Utf8.encode "NaN".toList <:+: bytes records ↔ ∃ record ∈ records, .nan ∈ numbers record) ∧
          (¬ReadsEqual records ↔ ∃ record ∈ records, .nan ∈ numbers record) := by
  have hequal : ∀ records, ¬ReadsEqual records ↔ ∃ record ∈ records, .nan ∈ numbers record := by
    intro records
    simp only [readsEqual_iff, not_forall, not_not, exists_prop]
  refine ⟨fun lines => ?_, fun records => ⟨shows_nan_iff, hequal records⟩⟩
  intro records
  have hsound : ∀ record ∈ records, record.IsSound := fun record hrecord =>
    Calculator.isSound_of_mem_evaluateAll hrecord
  have hnone : ¬∃ record ∈ records, .nan ∈ numbers record := by
    rintro ⟨record, hrecord, hnan⟩
    exact nan_notMem_numbers (hsound record hrecord) hnan
  refine ⟨fun record hrecord => ?_, mt shows_nan_iff.1 hnone, ?_⟩
  · have hrecordSound := hsound record hrecord
    exact ⟨hrecordSound.left, hrecordSound.right, hrecordSound.result,
      Binary64.isFinite_or_infinity hrecordSound.result_ne_nan⟩
  · exact not_not.1 (mt (hequal records).1 hnone)

end History

end Abacus
