import Abacus.Text.Basic

/-!
# Log levels

Five levels of severity. A level is named by its own name or by an alias.
-/

namespace Abacus.Log

/-- How severe an event is. -/
inductive Level where
  | trace
  | debug
  | info
  | warn
  | error
  deriving DecidableEq

namespace Level

/-- The levels from the least severe to the most. -/
def all : List Level :=
  [trace, debug, info, warn, error]

/-- The level that holds where none is asked for. -/
def standard : Level :=
  info

/-- The name of a level. -/
def text : Level → Text
  | trace => "trace".toList
  | debug => "debug".toList
  | info => "info".toList
  | warn => "warn".toList
  | error => "error".toList

/-- The other names of a level. -/
def aliases : Level → List Text
  | warn => ["warning".toList]
  | error => ["critical".toList]
  | _ => []

/-- The place of a level from the least severe on. -/
def severity : Level → Nat
  | trace => 0
  | debug => 1
  | info => 2
  | warn => 3
  | error => 4

/-- The level in five columns, in capitals, as it heads a log line. -/
def label (level : Level) : Text :=
  List.replicate (5 - level.text.length) ' ' ++ level.text.map Char.toUpper

/-- The level that a word names; on demand the case of ASCII letters does not matter. -/
def ofText? (ignoreCase : Bool) (word : Text) : Option Level :=
  let asked := if ignoreCase then word.map Char.toLower else word
  all.find? fun level => asked = level.text || level.aliases.contains asked

theorem ofText?_text (ignoreCase : Bool) (level : Level) :
    ofText? ignoreCase level.text = some level := by
  cases ignoreCase <;> cases level <;> decide

/-- Why a word is no level. -/
def unknownMessage (word : Text) : Text :=
  "invalid variant: ".toList ++ word

end Level

end Abacus.Log
