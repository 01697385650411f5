import Abacus.Proofs.Session.Damaged
import Abacus.Proofs.Session.Limited

/-!
# Failures in the log

What goes wrong in a session is in its log as an error: a line that is refused, by the session and,
where its numbers or its divisor are to blame, first by the calculator; and an input that breaks.
`Reports` says what the log tells of one line, which is what the turn of the line logs
(`reports_turn`). `errors_run` says it of all lines, by induction over them, and `errors_execute`
that a session logs no further error.
-/

namespace Abacus

namespace Log

/-- The events that are errors. -/
def errors (events : List Event) : List Event :=
  events.filter (·.level = .error)

theorem errors_append (first second : List Event) :
    errors (first ++ second) = errors first ++ errors second :=
  List.filter_append first second

/-- The error for which a session has refused a line, if that is what the event tells. -/
def Event.refusal? : Event → Option EvalError
  | lineRefused error => some error
  | _ => none

/-- The errors for which a session has refused lines. -/
def refusals (events : List Event) : List EvalError :=
  events.filterMap Event.refusal?

theorem refusals_append (first second : List Event) :
    refusals (first ++ second) = refusals first ++ refusals second :=
  List.filterMap_append

/-- A refusal is an error. -/
theorem refusals_errors (events : List Event) : refusals (errors events) = refusals events := by
  rw [refusals, errors, List.filterMap_filter]
  refine List.filterMap_congr fun event _ => ?_
  cases event <;> rfl

end Log

namespace Session

/-! ## Lines that fail -/

/-- A line fails with an error, on every calculator. -/
def Fails (line : Bytes) (error : EvalError) : Prop :=
  ∀ calculator : Calculator, (calculator.evaluate (Utf8.decodeLossy line)).outcome = .error error

/-- What the log of a session tells of a line, as far as it is an error. -/
inductive Reports (line : Bytes) : List Log.Event → Prop where
  | accepted {record : Record} : accepted? line = some record → Reports line []
  | keyword {k : Keyword} : isKeyword k line = true → Reports line []
  | format {count : Nat} : Fails line (.invalidFormat count) →
      Reports line [.lineRefused (.invalidFormat count)]
  | operator {op : Text} : Fails line (.invalidOperator op) →
      Reports line [.lineRefused (.invalidOperator op)]
  | numbers {operands : List Text} : Fails line (.invalidNumber operands) →
      Reports line
        [.numbersRefused (Utf8.decodeLossy line), .lineRefused (.invalidNumber operands)]
  | divisor {e : Expression} : Entry.read (Utf8.decodeLossy line) = .ok (.expression e) →
      Fails line .divisionByZero →
      Reports line [.divisionRefused e, .lineRefused .divisionByZero]

variable {line : Bytes} {error : EvalError} {events : List Log.Event}

theorem fails_of_refused (h : Entry.read (Utf8.decodeLossy line) = .error error) :
    Fails line error := by
  intro calculator
  rw [Calculator.evaluate_of_refused h]

theorem Fails.not_keyword (h : Fails line error) (k : Keyword) : isKeyword k line = false := by
  refine Bool.eq_false_iff.2 fun hkey => ?_
  have houtcome := h .new
  simp only [Calculator.evaluate, isKeyword_iff.1 hkey] at houtcome
  cases houtcome

/-- A line that fails is replied to by its error. -/
theorem Fails.lineReply_eq (h : Fails line error) : lineReply line = errorReply error := by
  have houtcome := h .new
  cases hread : Entry.read (Utf8.decodeLossy line) with
  | error refusal =>
    rw [Calculator.evaluate_of_refused hread] at houtcome
    cases houtcome
    simp only [lineReply, hread]
  | ok entry =>
    cases entry with
    | keyword k =>
      exact absurd (isKeyword_iff.2 hread) (by rw [h.not_keyword]; exact Bool.false_ne_true)
    | expression e =>
      simp only [Calculator.evaluate, hread, Calculator.evaluateExpression] at houtcome
      simp only [lineReply, hread]
      cases hevaluate : e.evaluate with
      | ok result =>
        rw [hevaluate] at houtcome
        cases houtcome
      | error refusal =>
        rw [hevaluate] at houtcome
        cases houtcome
        rfl

theorem not_keyword_of_accepted {record : Record} (h : accepted? line = some record)
    (k : Keyword) : isKeyword k line = false := by
  refine Bool.eq_false_iff.2 fun hkey => ?_
  have hread := (accepted?_eq_some_iff.1 h).1
  rw [isKeyword_iff.1 hkey] at hread
  cases hread

/-! ## What is logged -/

/-- The turn of a line logs the errors that the log tells of it. -/
theorem reports_turn (calculator : Calculator) (line : Bytes) :
    Reports line (Log.errors (logged (turn calculator line).acts)) := by
  cases hread : Entry.read (Utf8.decodeLossy line) with
  | error error =>
    have hfails := fails_of_refused hread
    rw [turn_of_refused hread]
    cases error with
    | invalidFormat count => exact .format hfails
    | invalidNumber operands => exact .numbers hfails
    | invalidOperator op => exact .operator hfails
    | divisionByZero => exact absurd hread (Entry.read_ne_divisionByZero _)
  | ok entry =>
    cases entry with
    | keyword k =>
      have hkey : isKeyword k line = true := isKeyword_iff.2 hread
      simp only [turn, Calculator.evaluate, hread]
      cases k with
      | history => exact .keyword hkey
      | exit => exact .keyword hkey
    | expression e =>
      simp only [turn, Calculator.evaluate, hread, Calculator.evaluateExpression,
        Expression.evaluate]
      cases happly : e.operator.apply e.left e.right with
      | some result =>
        have haccepted : accepted? line = some (.ofExpression e result) := by
          rw [accepted?, hread]
          exact congrArg (Option.map _) happly
        exact .accepted haccepted
      | none =>
        refine .divisor hread fun calculator => ?_
        simp only [Calculator.evaluate, hread, Calculator.evaluateExpression, Expression.evaluate,
          happly]

/-- A line has at most one refusal in the log. -/
theorem Reports.length_refusals (h : Reports line events) :
    (Log.refusals events).length = if Log.refusals events ≠ [] then 1 else 0 := by
  cases h <;> rfl

theorem countP_reports {lines : List Bytes} {reports : List (List Log.Event)}
    (h : List.Forall₂ Reports lines reports) :
    reports.countP (Log.refusals · ≠ []) = (Log.refusals reports.flatten).length := by
  induction h with
  | nil => rfl
  | cons hreports _ ih =>
    rw [List.countP_cons, ih, List.flatten_cons, Log.refusals_append, List.length_append,
      hreports.length_refusals, Nat.add_comm]
    simp only [decide_eq_true_eq]

/-- What the log tells of the end of an input, as far as it is an error: an input that breaks before
a line says `exit` fails. -/
def breakReport (lines : List Bytes) : Ending → List Log.Event
  | .finished => []
  | .broken reason => if exits lines then [] else [.inputFailed reason]

theorem refusals_breakReport (lines : List Bytes) (ending : Ending) :
    Log.refusals (breakReport lines ending) = [] := by
  cases ending with
  | finished => rfl
  | broken reason =>
    rw [breakReport]
    split <;> rfl

/-- The errors that a session logs up to its save: those of the lines that it replies to, and those
of what is done where the lines end. -/
theorem errors_run (last : List Act) (lines : List Bytes) (calculator : Calculator) :
    ∃ reports, List.Forall₂ Reports (processed lines) reports ∧
      Log.errors (logged (run last calculator lines).acts) =
        reports.flatten ++ if exits lines then [] else Log.errors (logged last) := by
  induction lines generalizing calculator with
  | nil => exact ⟨[], .nil, rfl⟩
  | cons line lines ih =>
    cases hexit : isKeyword .exit line with
    | true =>
      rw [run, turn_exit calculator hexit, processed_cons_of_exit lines hexit,
        exits_cons_of_exit lines hexit]
      exact ⟨[], .nil, rfl⟩
    | false =>
      obtain ⟨reports, hreports, hrest⟩ := ih (turn calculator line).calculator
      rw [run, if_pos (goesOn_turn calculator hexit), processed_cons lines hexit,
        exits_cons lines hexit]
      refine ⟨_ :: reports, .cons (reports_turn calculator line) hreports, ?_⟩
      rw [List.flatten_cons, List.append_assoc, ← hrest, ← Log.errors_append, ← logged_append]
      rfl

theorem errors_script {input : Bytes} {bodies : List Bytes} {tail : Bytes}
    (hcut : CutsInto input bodies tail) (ending : Ending) :
    let lines := linesOf bodies tail ending
    ∃ reports, List.Forall₂ Reports (processed lines) reports ∧
      Log.errors (logged (script input ending).acts) =
        reports.flatten ++ breakReport lines ending := by
  intro lines
  obtain ⟨reports, hreports, herrors⟩ :=
    errors_run (closing (lost input ending) ending) lines .new
  refine ⟨reports, hreports, ?_⟩
  rw [script, heard_eq hcut, herrors]
  cases ending with
  | finished => cases exits lines <;> rfl
  | broken reason => rfl

/-- A session logs no error behind its script. -/
theorem errors_execute {dir : Text} {request : Request} (h : request.room.Takes (spoken request)) :
    Log.errors (execute dir request).events =
      Log.errors (logged (script request.input request.ending).acts) := by
  rw [spoken_eq] at h
  obtain ⟨-, room, houtcome, -⟩ := output_playActs h
  have hsaved : ∀ path count,
      Log.errors (playActs room (savedActs path count)).events = [] := by
    intro path count
    simp only [savedActs, Act.print, playActs]
    split <;> rfl
  simp only [execute, houtcome, finish, ← events_playActs h]
  split
  · rfl
  · rw [Log.errors_append, hsaved, List.append_nil]

end Session

end Abacus
