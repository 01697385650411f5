import Abacus.CommandName
import Abacus.Entry
import Abacus.Log.Level
import Abacus.Text.Quoted

/-!
# Log events

What the program reports beside its output: which event, how severe it is, which part of the
program it comes from, and the line it makes in the log.
-/

namespace Abacus.Log

/-- A thing worth a line in the log. -/
inductive Event where
  /-- A registered command begins. -/
  | commandStarted (name : CommandName)
  /-- A line was refused for its numbers; the line is shown without its outer blanks. -/
  | numbersRefused (line : Text)
  /-- An expression was refused for its zero divisor. -/
  | divisionRefused (expression : Expression)
  /-- An expression and its result were recorded. -/
  | recorded (expression : Expression) (result : Binary64)
  /-- A session told its user why a line has no result. -/
  | lineRefused (error : EvalError)
  /-- The input of a session ended. -/
  | inputEnded
  /-- The input of a session failed. -/
  | inputFailed (reason : Text)
  /-- The records of a session were saved. -/
  | historySaved (path : Text) (count : Nat)
  deriving DecidableEq

namespace Event

/-- How severe an event is. -/
def level : Event → Level
  | commandStarted _ => .info
  | numbersRefused _ => .error
  | divisionRefused _ => .error
  | recorded _ _ => .debug
  | lineRefused _ => .error
  | inputEnded => .debug
  | inputFailed _ => .error
  | historySaved _ _ => .info

/-- The part of the program that an event comes from, by which filters choose. -/
def target : Event → Text
  | commandStarted _ => "calcledger::cli::commands".toList
  | numbersRefused _ => "calcledger::application::calculator".toList
  | divisionRefused _ => "calcledger::application::calculator".toList
  | recorded _ _ => "calcledger::application::calculator".toList
  | lineRefused _ => "calcledger::cli::calculator".toList
  | inputEnded => "calcledger::cli::calculator".toList
  | inputFailed _ => "calcledger::cli::calculator".toList
  | historySaved _ _ => "calcledger::io::export".toList

/-- What an event says. -/
def message : Event → Text
  | commandStarted _ => "Executing command".toList
  | numbersRefused _ => "Invalid number format".toList
  | divisionRefused _ => EvalError.divisionByZero.message
  | recorded _ _ => "Calculation recorded".toList
  | lineRefused error => "Error: ".toList ++ error.message
  | inputEnded => "End of input, closing session".toList
  | inputFailed reason => "Failed to read input: ".toList ++ reason
  | historySaved _ _ => "Calculator history saved".toList

/-- The named values of an event. -/
def fields : Event → List (Text × Text)
  | commandStarted name => [("command".toList, name.text)]
  | numbersRefused line => [("input".toList, quote (trim line))]
  | divisionRefused expression => [("expression".toList, expression.print)]
  | recorded expression result =>
    [("expression".toList, expression.print), ("result".toList, Layout.result.print result)]
  | lineRefused _ => []
  | inputEnded => []
  | inputFailed _ => []
  | historySaved path count => [("path".toList, path), ("records".toList, toDigits count)]

/-- The names under which an event can be asked for what it tells. -/
def fieldNames (event : Event) : List Text :=
  "message".toList :: event.fields.map Prod.fst

/-- A named value behind a message. -/
def fieldText (field : Text × Text) : Text :=
  ' ' :: field.1 ++ '=' :: field.2

/-- The line of an event without the time in front of it. -/
def line (event : Event) : Text :=
  event.level.label ++ ' ' :: disarm event.message ++ event.fields.flatMap fieldText

end Event

end Abacus.Log
