import Abacus.Ledger
import Abacus.Log.Event

/-!
# The calculator

Evaluates one line at a time and records each accepted expression. A line that is a keyword or
that is refused leaves the ledger as it was, and the outcome of a line does not depend on the
ledger: `Calculator.outcome_evaluate`.
-/

namespace Abacus

/-- A calculator is its ledger. -/
structure Calculator where
  ledger : Ledger

/-- What an accepted line gives. -/
inductive Outcome where
  | value (result : Binary64)
  | keyword (keyword : Keyword)
  deriving DecidableEq

/-- What one line does: its outcome, the calculator after it, and what is logged. -/
structure Evaluation where
  outcome : Except EvalError Outcome
  calculator : Calculator
  events : List Log.Event

namespace Calculator

/-- A calculator that has recorded nothing. -/
def new : Calculator :=
  ⟨.empty⟩

/-- Computes an expression; a result is recorded before it is given. -/
def evaluateExpression (calculator : Calculator) (expression : Expression) : Evaluation :=
  match expression.evaluate with
  | .ok result =>
    ⟨.ok (.value result), ⟨calculator.ledger.append (.ofExpression expression result)⟩,
      [.recorded expression result]⟩
  | .error error => ⟨.error error, calculator, [.divisionRefused expression]⟩

/-- What a refused line logs: only numbers are reported with their line. -/
def refusalEvents (line : Text) : EvalError → List Log.Event
  | .invalidNumber _ => [.numbersRefused line]
  | _ => []

/-- Evaluates a line. -/
def evaluate (calculator : Calculator) (line : Text) : Evaluation :=
  match Entry.read line with
  | .ok (.keyword keyword) => ⟨.ok (.keyword keyword), calculator, []⟩
  | .ok (.expression expression) => calculator.evaluateExpression expression
  | .error error => ⟨.error error, calculator, refusalEvents line error⟩

/-- The outcome of a line is the same on every calculator. -/
theorem outcome_evaluate (calculator : Calculator) (line : Text) :
    (calculator.evaluate line).outcome = (new.evaluate line).outcome := by
  unfold evaluate
  split
  · rfl
  · unfold evaluateExpression
    split <;> rfl
  · rfl

end Calculator

end Abacus
