import Abacus.Decimal.Numeral
import Abacus.Log.Event
import Abacus.Log.Pattern
import Abacus.Log.Source

/-!
# Directives of log filters

A directive names a target, in brackets a scope, and behind an equals sign a bound: from which level
on events are shown. A directive without a bound shows everything, but for a word alone that is
itself a bound, which holds for all targets. Names and bounds are pieces of the text as it is given.
-/

namespace Abacus.Log

/-- Which events of a target a directive is for. -/
inductive Scope where
  /-- All of them. -/
  | all
  /-- Those that have the field. -/
  | having (field : Text)
  /-- Those inside some spans; the program has no spans. -/
  | spans
  deriving DecidableEq

/-- From which level on the events of a target and a scope are shown; without a level, none. -/
structure Directive where
  target : Text
  scope : Scope
  least : Option Level
  deriving DecidableEq

/-! ## Bounds -/

/-- The bounds with their names, in the order in which numbers count them. -/
def bounds : List (Text × Option Level) :=
  [("off".toList, none), ("error".toList, some .error), ("warn".toList, some .warn),
    ("info".toList, some .info), ("debug".toList, some .debug), ("trace".toList, some .trace)]

/-- The number that digits write, which a plus sign may precede. -/
def count? (word : Text) : Option Nat :=
  let digits := match word with
    | '+' :: rest => rest
    | _ => word
  if digits ≠ [] ∧ digits.all Char.isDigit then some (ofDigits digits) else none

/-- The bound that a word names, whatever the case of its ASCII letters. -/
def bound? (word : Text) : Option (Option Level) :=
  match count? word with
  | some n => bounds[n]?.map Prod.snd
  | none => bounds.lookup (word.map Char.toLower)

/-- The bound behind an equals sign; nothing behind it shows everything. -/
def boundOrAll? (word : Text) : Option (Option Level) :=
  if word = [] then some (some .trace) else bound? word

/-! ## Scopes -/

/-- A value that a field can be compared with: a number or a pattern. -/
def isFieldValue (value : Text) : Bool :=
  (Numeral.read? value).isSome || isPattern value

namespace Scope

/-- The scope of a span's name and a field. Only a field alone is told by an event itself. -/
def ofField? (span field : Text) : Option Scope :=
  match field.span (· ≠ '=') with
  | (name, []) => some (if span = [] then having name else spans)
  | (_, _ :: value) => if isFieldValue (value.takeWhile (· ≠ '=')) then some spans else none

/-- The scope behind an opening bracket, and what is behind the closing one. -/
def read? (source : Source) (cs : Text) : Option (Scope × Text) :=
  match cs.span fun c => c ≠ ']' ∧ c ≠ '\x7b' with
  | (_, ']' :: rest) => some (spans, rest)
  | (span, _ :: body) =>
    let stop := body.dropWhile (· ≠ '\x7d')
    match stop with
    | _ :: ']' :: rest =>
      if stop = body then none
      else (ofField? span (source.piece body stop)).map (·, rest)
    | _ => none
  | _ => none

/-- An event is in a scope. -/
def admits (scope : Scope) (event : Event) : Bool :=
  match scope with
  | all => true
  | having field => event.fieldNames.contains field
  | spans => false

/-- The field that a scope asks for, if it asks for one. -/
def field : Scope → Text
  | having field => field
  | _ => []

end Scope

/-! ## Directives -/

namespace Directive

/-- A directive may start with this character. -/
def isStart (c : Char) : Bool :=
  isAlphanumeric c || c == '-' || c == ':' || c == '_'

/-- A word alone. -/
def ofWord (word : Text) : Directive :=
  match bound? word with
  | some least => ⟨[], .all, least⟩
  | none => ⟨word, .all, some .trace⟩

/-- What follows the scope of a directive: nothing, or a bound. -/
def finish? (source : Source) (target : Text) (scope : Scope) : Text → Option Directive
  | [] => some ⟨target, scope, some .trace⟩
  | '=' :: word => (boundOrAll? (source.tail word)).map fun least => ⟨target, scope, least⟩
  | _ => none

/-- What follows the bracket behind a target. -/
def scoped? (source : Source) (target cs : Text) : Option Directive :=
  match Scope.read? source cs with
  | some (scope, rest) => finish? source target scope rest
  | none => none

/-- A directive. -/
def ofSource? (source : Source) : Option Directive :=
  match source.body with
  | [] => none
  | '[' :: rest => scoped? source [] rest
  | c :: _ =>
    if isStart c then
      let stop := source.body.dropWhile fun d => d ≠ '=' ∧ d ≠ '['
      let target := source.piece source.body stop
      match stop with
      | [] => some (ofWord source.text)
      | '[' :: rest => scoped? source target rest
      | _ => finish? source target .all stop
    else
      none

/-- The directive that a text gives. -/
def read? (text : Text) : Option Directive :=
  ofSource? (.ofText text)

/-- A directive speaks of an event. -/
def concerns (directive : Directive) (event : Event) : Bool :=
  directive.target.isPrefixOf event.target && directive.scope.admits event

/-- A directive comes before another: its target is longer, or as long and its field is greater in
the order of texts. -/
def outranks (first second : Directive) : Bool :=
  second.target.length < first.target.length ||
    (second.target.length == first.target.length &&
      List.lex second.scope.field first.scope.field fun a b => a.toNat < b.toNat)

end Directive

end Abacus.Log
