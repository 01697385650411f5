import Abacus.Log.Pattern.Class
import Abacus.Log.Pattern.Group

/-!
# Patterns

Which texts are patterns, by their grammar alone; nothing is matched here. Groups and classes are
closed, no two groups have one name, a repetition has something to repeat, an escape has a meaning,
and nothing is nested too deep. Counted repetitions and named properties are no part of the grammar.

Flags change what may follow them in their group. What needs a table of all characters is never
allowed: a kind of characters named by a letter, the bounds of words, and a character of whatever
case. In bytes all of these are those of ASCII, but nothing may stand for a byte beyond it.
-/

namespace Abacus.Log.Pattern

/-! ## What is read -/

/-- Parts in a row. -/
structure Sequence where
  /-- The parts in front of the last. -/
  before : Bunch
  /-- How deep the last part is, if it is one that can be repeated. -/
  last : Option Nat

namespace Sequence

/-- No parts. -/
def empty : Sequence :=
  ⟨.empty, none⟩

/-- All parts. -/
def parts (sequence : Sequence) : Bunch :=
  match sequence.last with
  | some depth => sequence.before.add depth
  | none => sequence.before

/-- One part more, of some depth. -/
def add (sequence : Sequence) (depth : Nat) : Sequence :=
  ⟨sequence.parts, some depth⟩

/-- A setting of flags more, which cannot be repeated. -/
def addFlags (sequence : Sequence) : Sequence :=
  ⟨sequence.parts.add 0, none⟩

/-- The last part is repeated. -/
def repeat? (sequence : Sequence) : Option Sequence :=
  sequence.last.map fun depth => ⟨sequence.before, some (depth + 1)⟩

end Sequence

/-- What is read of a group, or of a pattern outside of groups. -/
structure Body where
  /-- The mode in force. -/
  mode : Mode
  /-- The branches in front of the last bar. -/
  branches : Bunch
  /-- The parts behind it. -/
  sequence : Sequence

namespace Body

/-- Nothing is read. -/
def start (mode : Mode) : Body :=
  ⟨mode, .empty, .empty⟩

/-- One part more, of some depth. -/
def add (body : Body) (depth : Nat) : Body :=
  ⟨body.mode, body.branches, body.sequence.add depth⟩

/-- A setting of flags, and the mode behind it. -/
def setMode (body : Body) (mode : Mode) : Body :=
  ⟨mode, body.branches, body.sequence.addFlags⟩

/-- A bar follows. -/
def branch (body : Body) : Body :=
  ⟨body.mode, body.branches.add body.sequence.parts.total, .empty⟩

/-- The last part is repeated. -/
def repeat? (body : Body) : Option Body :=
  body.sequence.repeat?.map fun sequence => ⟨body.mode, body.branches, sequence⟩

/-- How deep all of it is. -/
def total (body : Body) : Nat :=
  (body.branches.add body.sequence.parts.total).total

end Body

/-- What is read of a pattern up to some place. -/
structure State where
  /-- The innermost group that is open there. -/
  body : Body
  /-- What is around it. -/
  around : List Body
  /-- The names of groups. -/
  names : List Text

namespace State

/-- Nothing is read. -/
def start : State :=
  ⟨.start .plain, [], []⟩

/-- The mode in force. -/
def mode (state : State) : Mode :=
  state.body.mode

/-- Goes on in the innermost group. -/
def within (state : State) (body : Body) : State :=
  ⟨body, state.around, state.names⟩

/-- One part more, of some depth. -/
def add (state : State) (depth : Nat) : State :=
  state.within (state.body.add depth)

/-- Opens a group. -/
def openGroup? (state : State) (name : Option Text) (mode : Mode) : Option State :=
  if name.any state.names.contains then none
  else some ⟨.start mode, state.body :: state.around, name.toList ++ state.names⟩

/-- Closes the innermost group. -/
def closeGroup? (state : State) : Option State :=
  match state.around with
  | [] => none
  | outer :: around => some ⟨outer.add (state.body.total + 1), around, state.names⟩

/-! ## Parts -/

/-- What follows an opening parenthesis. -/
def parenthesis? (state : State) (cs : Text) : Option (State × Text) :=
  match opening? state.mode cs with
  | some (.group name mode, rest) => (state.openGroup? name mode).map (·, rest)
  | some (.flags mode, rest) => some (state.within (state.body.setMode mode), rest)
  | none => none

/-- What follows a backslash. -/
def backslash? (state : State) (cs : Text) : Option (State × Text) :=
  match assertion? state.mode cs with
  | some rest => some (state.add 0, rest)
  | none =>
    match escape? state.mode cs with
    | some (.char _, rest) => if state.mode.hasLiterals then some (state.add 0, rest) else none
    | some (.several, rest) => some (state.add 0, rest)
    | none => none

/-- A repetition; a question mark right behind it belongs to it. -/
def repetition? (state : State) (cs : Text) : Option (State × Text) :=
  let rest := match cs with
    | '?' :: rest => rest
    | _ => cs
  state.body.repeat?.map fun body => (state.within body, rest)

/-- What one character starts, and what is left. -/
def step? (state : State) (c : Char) (rest : Text) : Option (State × Text) :=
  match c with
  | '(' => state.parenthesis? rest
  | ')' => state.closeGroup?.map (·, rest)
  | '|' => some (state.within state.body.branch, rest)
  | '[' => (class? state.mode rest).map fun (depth, rest') => (state.add depth, rest')
  | '\\' => state.backslash? rest
  | '{' => none
  | '^' => some (state.add 0, rest)
  | '$' => some (state.add 0, rest)
  | '.' => if state.mode.bytes then none else some (state.add 0, rest)
  | '*' => state.repetition? rest
  | '+' => state.repetition? rest
  | '?' => state.repetition? rest
  | _ => if state.mode.hasLiterals then some (state.add 0, rest) else none

/-- Reads a pattern on to its end: how deep it is. -/
def read? : Nat → State → Text → Option Nat
  | 0, _, _ => none
  | fuel + 1, state, cs =>
    match state.mode.skip cs with
    | [] => if state.around.isEmpty then some state.body.total else none
    | c :: rest =>
      match state.step? c rest with
      | some (state', rest') => read? fuel state' rest'
      | none => none

end State

/-- How deep a pattern is nested; a text that is no pattern has no depth. -/
def depth? (cs : Text) : Option Nat :=
  State.start.read? (cs.length + 1) cs

/-- The deepest nesting that is allowed. -/
def maxDepth : Nat :=
  250

end Abacus.Log.Pattern

namespace Abacus.Log

/-- A text is a pattern. -/
def isPattern (cs : Text) : Bool :=
  (Pattern.depth? cs).any (· ≤ Pattern.maxDepth)

end Abacus.Log
