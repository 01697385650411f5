import Abacus.Log.Pattern.Mode

/-!
# Escapes

What a backslash and the characters behind it stand for. A kind of characters named by a letter
would need a table of all characters; in bytes it is one of ASCII, and none may hold a byte beyond.
-/

namespace Abacus.Log.Pattern

/-- What an item stands for: one character, by its code, or any of several. -/
inductive Item where
  | char (code : Nat)
  | several
  deriving DecidableEq

/-- The value of a hexadecimal digit. -/
def hexValue? (c : Char) : Option Nat :=
  if c.isDigit then some (c.toNat - 0x30)
  else if 'a' ≤ c.toLower ∧ c.toLower ≤ 'f' then some (c.toLower.toNat - 0x57)
  else none

/-- The number that some hexadecimal digits write behind those of `n`, and what is left. -/
def hex? (mode : Mode) : Nat → Nat → Text → Option (Nat × Text)
  | 0, n, cs => some (n, cs)
  | digits + 1, n, cs =>
    match mode.skip cs with
    | [] => none
    | c :: rest => (hexValue? c).bind fun d => hex? mode digits (16 * n + d) rest

/-- The character whose code some hexadecimal digits write. -/
def coded? (mode : Mode) (digits : Nat) (cs : Text) : Option (Item × Text) :=
  match hex? mode digits 0 cs with
  | some (code, rest) => if Nat.isValidChar code then some (.char code, rest) else none
  | none => none

/-- What two hexadecimal digits stand for: in bytes a byte, which must be one of ASCII. -/
def codedShort? (mode : Mode) (cs : Text) : Option (Item × Text) :=
  match hex? mode 2 0 cs with
  | some (code, rest) => if mode.bytes && 0x80 ≤ code then none else some (.char code, rest)
  | none => none

/-- The codes of the controls that have an escape of their own. -/
def controlEscapes : List (Char × Nat) :=
  [('a', 0x07), ('f', 0x0C), ('t', 0x09), ('n', 0x0A), ('r', 0x0D), ('v', 0x0B)]

/-- What a single character behind a backslash stands for. -/
def escaped? (mode : Mode) (c : Char) : Option Item :=
  if c = 'd' ∨ c = 's' ∨ c = 'w' then
    if mode.bytes then some .several else none
  else
    match controlEscapes.lookup c with
    | some code => some (.char code)
    | none =>
      if c.isAlphanum || c == '<' || c == '>' || 0x80 ≤ c.toNat then none else some (.char c.toNat)

/-- What a backslash and what is behind it stand for, and what is left. -/
def escape? (mode : Mode) : Text → Option (Item × Text)
  | [] => none
  | 'x' :: rest => codedShort? mode rest
  | 'u' :: rest => coded? mode 4 rest
  | 'U' :: rest => coded? mode 8 rest
  | c :: rest => (escaped? mode c).map (·, rest)

/-- What is left behind an assertion whose backslash is read. The bounds of words are those of
bytes. -/
def assertion? (mode : Mode) : Text → Option Text
  | [] => none
  | c :: rest =>
    if c = 'A' ∨ c = 'z' ∨ (mode.bytes ∧ c ∈ ['b', 'B', '<', '>']) then some rest else none

end Abacus.Log.Pattern
