import Abacus.Log.Pattern.Mode
import Abacus.Text.Alphanumeric

/-!
# Groups

What stands behind an opening parenthesis: a name, flags, or nothing. Flags without a colon open no
group but hold from there on.
-/

namespace Abacus.Log.Pattern

/-! ## Names -/

/-- A character with which the name of a group may start. -/
def isNameStart (c : Char) : Bool :=
  c == '_' || isAlphabetic c

/-- A character with which the name of a group goes on. -/
def isNameChar (c : Char) : Bool :=
  c ∈ ['_', '.', '[', ']'] || isAlphanumeric c

/-- The name of a group. -/
def isGroupName : Text → Bool
  | [] => false
  | c :: rest => isNameStart c && rest.all isNameChar

/-- The name of a group in front of an angle bracket, and what is left. -/
def groupName? (cs : Text) : Option (Text × Text) :=
  match cs.span (· ≠ '>') with
  | (name, _ :: rest) => if isGroupName name then some (name, rest) else none
  | _ => none

/-! ## Openings -/

/-- What an opening parenthesis starts. -/
inductive Opening where
  /-- A group, which may have a name, and the mode in it. -/
  | group (name : Option Text) (mode : Mode)
  /-- Nothing, but from there on a mode is in force. -/
  | flags (mode : Mode)

/-- What an opening parenthesis starts, and what is left. -/
def opening? (mode : Mode) (cs : Text) : Option (Opening × Text) :=
  match mode.skip cs with
  | '?' :: 'P' :: '<' :: rest =>
    (groupName? rest).map fun (name, rest') => (.group (some name) mode, rest')
  | '?' :: '<' :: rest =>
    (groupName? rest).map fun (name, rest') => (.group (some name) mode, rest')
  | '?' :: rest =>
    match rest.span fun c => c ≠ ':' ∧ c ≠ ')' with
    | (flags, ':' :: rest') =>
      if Mode.isFlags flags then some (.group none (mode.change flags), rest') else none
    | (flags, ')' :: rest') =>
      if flags ≠ [] ∧ Mode.isFlags flags then some (.flags (mode.change flags), rest') else none
    | _ => none
  | rest => some (.group none mode, rest)

end Abacus.Log.Pattern
