import Abacus.Log.Directive

/-!
# Log filters

Which events are shown. Of the directives of a filter that concern an event, the one of highest rank
decides, and the last of those of equal rank. An event that no directive concerns is hidden.
-/

namespace Abacus.Log

/-- A list of directives, in the order in which they were given. -/
abbrev Filter := List Directive

namespace Filter

/-- The directives between commas; parts that are empty are passed over. -/
def read? (text : Text) : Option Filter :=
  (runs (· ≠ ',') text).mapM Directive.read?

/-- The filter of the program's own events from a level on. -/
def ofLevel (level : Level) : Filter :=
  [⟨"calcledger".toList, .all, some level⟩]

/-- The filter that a setting asks for, or the one of a level where the setting is absent or makes
no sense. -/
def choose (setting : Option Text) (level : Level) : Filter :=
  (setting.bind read?).getD (ofLevel level)

/-- The directive of higher rank; the second if neither is higher. -/
def prefer (first : Option Directive) (second : Directive) : Option Directive :=
  match first with
  | some directive => if directive.outranks second then some directive else some second
  | none => some second

/-- The directive that decides on an event. -/
def decisive? (filter : Filter) (event : Event) : Option Directive :=
  (filter.filter fun directive => directive.concerns event).foldl prefer none

/-- An event is shown. -/
def shows (filter : Filter) (event : Event) : Bool :=
  match filter.decisive? event with
  | some ⟨_, _, some least⟩ => least.severity ≤ event.level.severity
  | _ => false

end Filter

end Abacus.Log
