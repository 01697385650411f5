import Abacus.Proofs.Expression
import Abacus.Proofs.Session.Reply

/-!
# Replaying a listing

A listed record shows its expression and its result, each in numbers that read back. The record of
a line is the record of its written expression (`Calculator.recordOf?_written`), so the lines of a
listing can be evaluated again: `reply_history_replays`. The results of records are no NaNs, since
no operator gives one on finite operands (`Record.IsSound.result_ne_nan`).
-/

namespace Abacus

/-! ## Results -/

namespace Binary64

theorem ofCode_ne_nan (negative : Bool) (code : Nat) : ofCode negative code ≠ .nan := by
  unfold ofCode
  split <;> simp

theorem nearest_ne_nan (negative : Bool) (n d : Nat) : nearest negative n d ≠ .nan :=
  ofCode_ne_nan negative _

theorem isFinite_neg (x : Binary64) : x.neg.isFinite = x.isFinite := by
  cases x <;> rfl

/-- Finite operands have a sum. -/
theorem add_ne_nan {x y : Binary64} (hx : x.isFinite = true) (hy : y.isFinite = true) :
    x.add y ≠ .nan := by
  match x, y with
  | .finite s a, .finite t b =>
    simp only [add]
    exact nearest_ne_nan _ _ _

theorem mul_ne_nan {x y : Binary64} (hx : x.isFinite = true) (hy : y.isFinite = true) :
    x.mul y ≠ .nan := by
  match x, y with
  | .finite s a, .finite t b =>
    simp only [mul]
    exact nearest_ne_nan _ _ _

theorem div_ne_nan {x y : Binary64} (hx : x.isFinite = true) (hy : y.isFinite = true)
    (hzero : y.isZero = false) : x.div y ≠ .nan := by
  match x, y with
  | .finite s a, .finite t b =>
    have hb : b.val ≠ 0 := by simpa [isZero] using hzero
    simp only [div, if_neg hb]
    exact nearest_ne_nan _ _ _

end Binary64

/-- No operator gives a NaN on finite operands. -/
theorem Operator.apply_ne_nan (operator : Operator) {x y result : Binary64}
    (hx : x.isFinite = true) (hy : y.isFinite = true) (h : operator.apply x y = some result) :
    result ≠ .nan := by
  cases operator with
  | add =>
    obtain rfl := Option.some.inj h
    exact Binary64.add_ne_nan hx hy
  | subtract =>
    obtain rfl := Option.some.inj h
    exact Binary64.add_ne_nan hx ((Binary64.isFinite_neg y).trans hy)
  | multiply =>
    obtain rfl := Option.some.inj h
    exact Binary64.mul_ne_nan hx hy
  | divide =>
    rw [apply] at h
    split at h
    · cases h
    · next hzero =>
      obtain rfl := Option.some.inj h
      exact Binary64.div_ne_nan hx hy (by simpa using hzero)

/-- No NaN is ever recorded. -/
theorem Record.IsSound.result_ne_nan {record : Record} (h : record.IsSound) :
    record.result ≠ .nan :=
  record.operator.apply_ne_nan h.left h.right h.result

theorem Ledger.eq_of_toList_eq {first second : Ledger} (h : first.toList = second.toList) :
    first = second :=
  congrArg Ledger.mk (Array.toList_inj.1 h)

/-! ## Records evaluated again -/

namespace Calculator

/-- A record is the record of its written expression. -/
theorem recordOf?_written (layout : Layout) {record : Record} (h : record.IsSound) :
    recordOf? (record.expression.written layout) = some record :=
  recordOf?_eq_some_iff.2
    ⟨(Entry.read_written_iff layout).2 ⟨rfl, h.left, h.right⟩, h.result⟩

/-- What a line with a record does. -/
theorem evaluate_of_recordOf? {line : Text} {record : Record} (h : recordOf? line = some record)
    (calculator : Calculator) :
    (calculator.evaluate line).outcome = .ok (.value record.result) ∧
      (calculator.evaluate line).calculator = ⟨calculator.ledger.append record⟩ := by
  obtain ⟨record', hrecord, houtcome, hcalculator⟩ | ⟨hnone, -, -⟩ := calculator.evaluate_cases line
  · obtain rfl := Option.some.inj (hrecord.symm.trans h)
    exact ⟨houtcome, hcalculator⟩
  · rw [h] at hnone
    cases hnone

/-- The records behind lines are sound. -/
theorem isSound_of_mem_evaluateAll {lines : List Text} {record : Record}
    (h : record ∈ (new.evaluateAll lines).calculator.ledger.toList) : record.IsSound := by
  rw [toList_evaluateAll] at h
  obtain ⟨line, -, hrecord⟩ := List.mem_filterMap.1 h
  exact isSound_of_recordOf? hrecord

/-- Evaluating the written expressions of sound records gives the records. -/
theorem filterMap_recordOf?_written (layout : Layout) {records : List Record}
    (h : ∀ record ∈ records, record.IsSound) :
    (records.map fun record => record.expression.written layout).filterMap recordOf? = records := by
  induction records with
  | nil => rfl
  | cons record records ih =>
    obtain ⟨hrecord, hrecords⟩ := List.forall_mem_cons.1 h
    rw [List.map_cons, List.filterMap_cons_some (recordOf?_written layout hrecord), ih hrecords]

end Calculator

/-! ## Listings -/

namespace Session

/-- A listed line holds a number, a text that every calculator evaluates to the result of a record
and adds that record for, and a text that reads as the result. -/
def Replays (number : Nat) (record : Record) (replayed line : Text) : Prop :=
  ∃ left right value,
    replayed = left ++ ' ' :: record.operator.symbol :: ' ' :: right ∧
      line = padLeft 3 (toDigits number) ++ ". ".toList ++ replayed ++ " = ".toList ++ value ++
        ['\n'] ∧
      (∀ calculator : Calculator,
        (calculator.evaluate replayed).outcome = .ok (.value record.result) ∧
          (calculator.evaluate replayed).calculator = ⟨calculator.ledger.append record⟩) ∧
      Binary64.read? value = some record.result

theorem replays_listingLine {record : Record} (h : record.IsSound) (number : Nat) :
    Replays number record (record.expression.written .result) (listingLine number record) := by
  have hrecord := Calculator.recordOf?_written .result h
  refine ⟨Layout.result.print record.left, Layout.result.print record.right,
    Layout.result.print record.result, rfl, ?_, Calculator.evaluate_of_recordOf? hrecord,
    Binary64.read?_print .result record.result⟩
  rw [listingLine, Record.listing]
  simp only [Expression.written, Record.expression, List.append_assoc]

/-- A listing can be replayed, whatever lines made the ledger.
1. The reply to `history` is one line for each record, in order; the line of a record holds its
   number, a text that every calculator evaluates to the record, and a text that reads as the
   result, which is a number or an infinity but no NaN.
2. The evaluated texts of all lines, one behind the other, make the same ledger again. -/
theorem reply_history_replays (lines : List Text) :
    let calculator := (Calculator.new.evaluateAll lines).calculator
    let records := calculator.ledger.toList
    records ≠ [] →
      ∃ shown replayed : List Text,
        reply calculator.ledger (.ok (.keyword .history)) = some [.print shown.flatten] ∧
          shown.length = records.length ∧ replayed.length = records.length ∧
          (∀ i record, records[i]? = some record →
            record.result ≠ .nan ∧ ∃ line text, shown[i]? = some line ∧
              replayed[i]? = some text ∧ IsLine line ∧ Replays (i + 1) record text line) ∧
          (Calculator.new.evaluateAll replayed).calculator = calculator := by
  intro calculator records hne
  have hsound : ∀ record ∈ records, record.IsSound := fun record hrecord =>
    Calculator.isSound_of_mem_evaluateAll hrecord
  refine ⟨records.mapIdx fun i record => listingLine (i + 1) record,
    records.map fun record => record.expression.written .result, ?_, List.length_mapIdx,
    List.length_map _, fun i record hrecord => ?_, ?_⟩
  · rw [reply, listing_eq, if_neg hne]
  · have hrecordSound := hsound record (List.mem_of_getElem? hrecord)
    refine ⟨hrecordSound.result_ne_nan, listingLine (i + 1) record,
      record.expression.written .result, ?_, ?_, isLine_listingLine (i + 1) record,
      replays_listingLine hrecordSound (i + 1)⟩
    · rw [List.getElem?_mapIdx, hrecord, Option.map_some]
    · rw [List.getElem?_map, hrecord, Option.map_some]
  · have hledger := Calculator.new.toList_evaluateAll
      (records.map fun record => record.expression.written .result)
    rw [Calculator.filterMap_recordOf?_written .result hsound] at hledger
    exact congrArg Calculator.mk (Ledger.eq_of_toList_eq hledger)

/-- An overflow, a negative zero, and the least positive number. -/
theorem reply_history_replays_extremes :
    let lines := ["1e308 * 10", "0 * -1", "x", "1e-323 / 2"].map String.toList
    let calculator := (Calculator.new.evaluateAll lines).calculator
    ∃ shown : List Text,
      reply calculator.ledger (.ok (.keyword .history)) = some [.print shown.flatten] ∧
        shown.length = 3 ∧ Utf8.encode shown.flatten =
          Utf8.encode ("  1. 1e308 * 10.0 = inf\n  2. 0.0 * -1.0 = -0.0\n".toList ++
            "  3. 1e-323 / 2.0 = 5e-324\n".toList) := by
  intro lines calculator
  have hlength : calculator.ledger.toList.length = 3 := by decide +kernel
  have hlisting : reply calculator.ledger (.ok (.keyword .history)) =
      some [.print ("  1. 1e308 * 10.0 = inf\n  2. 0.0 * -1.0 = -0.0\n".toList ++
        "  3. 1e-323 / 2.0 = 5e-324\n".toList)] := by
    decide +kernel
  have hne : calculator.ledger.toList ≠ [] := List.ne_nil_of_length_pos (by omega)
  obtain ⟨shown, -, hreply, hshown, -, -, -⟩ := reply_history_replays lines hne
  have hact := List.singleton_inj.1 (Option.some.inj (hreply.symm.trans hlisting))
  injection hact with hbytes
  exact ⟨shown, hreply, hshown.trans hlength, hbytes⟩

end Session

end Abacus
