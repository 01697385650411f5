import Abacus.Calculator
import Abacus.Proofs.Entry

/-!
# Runs of a calculator

A line is either accepted, and then its record is appended and its result given, or it leaves the
calculator as it was: `evaluate_cases`. Which of the two, and with which record, is a function of
the line (`recordOf?`), so the ledger behind any lines is the records of those lines
(`toList_evaluateAll`), each of them sound. `evaluateAll_ledger` says it of whole runs.
-/

namespace Abacus

/-- A record of finite operands with the result of its operator, which divides by no zero. -/
structure Record.IsSound (record : Record) : Prop where
  left : record.left.isFinite = true
  right : record.right.isFinite = true
  result : record.operator.apply record.left record.right = some record.result
  divisor : record.operator = .divide → record.right ≠ .zero false ∧ record.right ≠ .zero true

namespace Calculator

/-! ## One line -/

/-- The record of a line, if it is accepted: its expression and the value that this has. -/
def recordOf? (line : Text) : Option Record :=
  match Entry.read line with
  | .ok (.expression e) => (e.operator.apply e.left e.right).map (.ofExpression e)
  | _ => none

/-- The value that an outcome gives, if it gives one. -/
def valueOf? : Except EvalError Outcome → Option Binary64
  | .ok (.value result) => some result
  | _ => none

/-- A line is accepted if it says an expression that divides by no zero. -/
theorem recordOf?_eq_some_iff {line : Text} {record : Record} :
    recordOf? line = some record ↔
      Entry.read line = .ok (.expression record.expression) ∧
        record.operator.apply record.left record.right = some record.result := by
  unfold recordOf?
  constructor
  · intro h
    split at h
    · next e he =>
      obtain ⟨result, happly, rfl⟩ := Option.map_eq_some_iff.1 h
      exact ⟨he, happly⟩
    · cases h
  · rintro ⟨hread, happly⟩
    rw [hread]
    exact Option.map_eq_some_iff.2 ⟨record.result, happly, rfl⟩

theorem isSound_of_recordOf? {line : Text} {record : Record} (h : recordOf? line = some record) :
    record.IsSound := by
  obtain ⟨hread, happly⟩ := recordOf?_eq_some_iff.1 h
  obtain ⟨hleft, hright⟩ := Entry.isFinite_of_read hread
  refine ⟨hleft, hright, happly, fun hdivide => ?_⟩
  -- A divisor that is a zero leaves no result.
  have hzero : record.right.isZero ≠ true := fun hzero => by
    rw [(Operator.apply_eq_none_iff _ _ _).2 ⟨hdivide, hzero⟩] at happly
    cases happly
  exact ⟨fun hpositive => hzero (hpositive ▸ rfl), fun hnegative => hzero (hnegative ▸ rfl)⟩

/-- All that a line can do to a calculator. -/
theorem evaluate_cases (calculator : Calculator) (line : Text) :
    (∃ record, recordOf? line = some record ∧
      (calculator.evaluate line).outcome = .ok (.value record.result) ∧
      (calculator.evaluate line).calculator = ⟨calculator.ledger.append record⟩) ∨
    (recordOf? line = none ∧ valueOf? (calculator.evaluate line).outcome = none ∧
      (calculator.evaluate line).calculator = calculator) := by
  unfold evaluate recordOf?
  cases Entry.read line with
  | error error => exact .inr ⟨rfl, rfl, rfl⟩
  | ok entry =>
    cases entry with
    | keyword k => exact .inr ⟨rfl, rfl, rfl⟩
    | expression e =>
      simp only [evaluateExpression, Expression.evaluate]
      cases e.operator.apply e.left e.right with
      | some result => exact .inl ⟨.ofExpression e result, rfl, rfl, rfl⟩
      | none => exact .inr ⟨rfl, rfl, rfl⟩

/-- Evaluating a line appends its record, if it has one. -/
theorem toList_evaluate (calculator : Calculator) (line : Text) :
    (calculator.evaluate line).calculator.ledger.toList =
      calculator.ledger.toList ++ (recordOf? line).toList := by
  obtain ⟨record, hrecord, -, hcalculator⟩ | ⟨hrecord, -, hcalculator⟩ :=
    calculator.evaluate_cases line
  · rw [hcalculator, hrecord, Ledger.toList_append, Option.toList_some]
  · rw [hcalculator, hrecord, Option.toList_none, List.append_nil]

/-- The value that a line gives is the result of its record. -/
theorem valueOf?_outcome (calculator : Calculator) (line : Text) :
    valueOf? (calculator.evaluate line).outcome = (recordOf? line).map Record.result := by
  obtain ⟨record, hrecord, houtcome, -⟩ | ⟨hrecord, houtcome, -⟩ := calculator.evaluate_cases line
  · rw [houtcome, hrecord]
    rfl
  · rw [houtcome, hrecord]
    rfl

/-! ## Many lines -/

/-- What lines give that are evaluated one behind the other: their outcomes and the calculator
behind them. -/
structure Run where
  outcomes : List (Except EvalError Outcome)
  calculator : Calculator

/-- Evaluates lines one behind the other. -/
def evaluateAll (calculator : Calculator) : List Text → Run
  | [] => ⟨[], calculator⟩
  | line :: lines =>
    let first := calculator.evaluate line
    let rest := first.calculator.evaluateAll lines
    ⟨first.outcome :: rest.outcomes, rest.calculator⟩

theorem evaluateAll_append (calculator : Calculator) (first second : List Text) :
    (calculator.evaluateAll (first ++ second)).calculator =
      ((calculator.evaluateAll first).calculator.evaluateAll second).calculator := by
  induction first generalizing calculator with
  | nil => rfl
  | cons line first ih => exact ih (calculator.evaluate line).calculator

/-- The outcomes of lines are those that each of them has by itself. -/
theorem outcomes_evaluateAll (calculator : Calculator) (lines : List Text) :
    (calculator.evaluateAll lines).outcomes =
      lines.map fun line => (new.evaluate line).outcome := by
  induction lines generalizing calculator with
  | nil => rfl
  | cons line lines ih =>
    rw [evaluateAll, List.map_cons, ih, outcome_evaluate]

/-- The records behind lines are those that were there and those of the lines. -/
theorem toList_evaluateAll (calculator : Calculator) (lines : List Text) :
    (calculator.evaluateAll lines).calculator.ledger.toList =
      calculator.ledger.toList ++ lines.filterMap recordOf? := by
  induction lines generalizing calculator with
  | nil => exact (List.append_nil _).symm
  | cons line lines ih =>
    rw [evaluateAll, ih, toList_evaluate, List.append_assoc]
    cases hrecord : recordOf? line with
    | none => rw [List.filterMap_cons_none hrecord, Option.toList_none, List.nil_append]
    | some record =>
      rw [List.filterMap_cons_some hrecord, Option.toList_some, List.singleton_append]

/-- The law of the ledger, for a new calculator and any lines.
1. The outcome of each line is the one that it has on a new calculator.
2. The ledger holds one record for each line that gave a value, in their order, with that value as
   its result; it is the record of the line's expression.
3. A line that gave no value left the calculator as it was.
4. The ledger behind the first of the lines is the front of the ledger behind all of them.
5. Every record has finite operands and the result of its operator, and divides by no zero. -/
theorem evaluateAll_ledger (lines : List Text) :
    let run := new.evaluateAll lines
    let records := run.calculator.ledger.toList
    run.outcomes = lines.map (fun line => (new.evaluate line).outcome) ∧
      records.map Record.result = run.outcomes.filterMap valueOf? ∧
      records = lines.filterMap recordOf? ∧
      (∀ line record, recordOf? line = some record →
        Entry.read line = .ok (.expression record.expression)) ∧
      (∀ earlier line later, lines = earlier ++ line :: later →
        let before := (new.evaluateAll earlier).calculator
        valueOf? (before.evaluate line).outcome = none →
          (before.evaluate line).calculator = before ∧
            (new.evaluateAll (earlier ++ [line])).calculator = before) ∧
      (∀ earlier, earlier <+: lines →
        (new.evaluateAll earlier).calculator.ledger.toList <+: records) ∧
      ∀ record ∈ records, record.IsSound := by
  intro run records
  have hrecords : records = lines.filterMap recordOf? := new.toList_evaluateAll lines
  refine ⟨outcomes_evaluateAll new lines, ?_, hrecords, ?_, ?_, ?_, ?_⟩
  · rw [hrecords, outcomes_evaluateAll, List.map_filterMap, List.filterMap_map]
    simp only [Function.comp_def, valueOf?_outcome]
  · exact fun line record hrecord => (recordOf?_eq_some_iff.1 hrecord).1
  · intro earlier line later _ before hnone
    have hkept : (before.evaluate line).calculator = before := by
      obtain ⟨record, -, houtcome, -⟩ | ⟨-, -, hcalculator⟩ := before.evaluate_cases line
      · rw [houtcome] at hnone
        cases hnone
      · exact hcalculator
    exact ⟨hkept, (evaluateAll_append new earlier [line]).trans hkept⟩
  · rintro earlier ⟨later, rfl⟩
    rw [hrecords, toList_evaluateAll, List.filterMap_append]
    exact List.prefix_append _ _
  · intro record hmem
    rw [hrecords] at hmem
    obtain ⟨line, -, hrecord⟩ := List.mem_filterMap.1 hmem
    exact isSound_of_recordOf? hrecord

/-- A result and an operand that overflow, a divisor that underflows, a keyword, and zeros. -/
theorem evaluateAll_ledger_extremes :
    let lines :=
      ["1e308 * 10", "1e400 + 1", "1 / 1e-400", "history", "-0 - 0"].map String.toList
    (new.evaluateAll lines).calculator.ledger.toList.map Record.listing =
      ["1e308 * 10.0 = inf".toList, "-0.0 - 0.0 = -0.0".toList] := by
  intro lines
  rw [(evaluateAll_ledger lines).2.2.1]
  decide +kernel

end Calculator

end Abacus
