import Abacus.Text.Blank

/-!
# Modes of patterns

What the flags in force say. In spaced mode blanks and comments may stand between the parts of a
pattern.
-/

namespace Abacus.Log.Pattern

/-- What the flags in force say. -/
structure Mode where
  /-- The case of letters does not matter. -/
  caseless : Bool
  /-- A pattern is of bytes. -/
  bytes : Bool
  /-- Blanks and comments have no meaning. -/
  spaced : Bool

/-- A text without the blanks and the comments at its front; it may start in a comment, which ends
with its line. -/
def skipSpace (comment : Bool) : Text → Text
  | [] => []
  | c :: rest =>
    if comment then skipSpace (c ≠ '\n') rest
    else if isBlank c then skipSpace false rest
    else if c = '#' then skipSpace true rest
    else c :: rest

namespace Mode

/-- No flag is in force. -/
def plain : Mode :=
  ⟨false, false, false⟩

/-! ## Flags -/

/-- Flags: each at most once, and at most one dash, in front of another. -/
def isFlags (cs : Text) : Bool :=
  cs.all ['i', 'm', 's', 'U', 'u', 'x', 'R', '-'].contains && cs.eraseDups == cs &&
    cs.getLast? != some '-'

/-- Whether a flag is in force behind some flags; those behind a dash are taken back. -/
def holds (flags : Text) (flag : Char) (before : Bool) : Bool :=
  (before || (flags.takeWhile (· ≠ '-')).contains flag) &&
    !(flags.dropWhile (· ≠ '-')).contains flag

/-- The mode behind some flags. -/
def change (mode : Mode) (flags : Text) : Mode :=
  ⟨holds flags 'i' mode.caseless, !holds flags 'u' (!mode.bytes), holds flags 'x' mode.spaced⟩

/-! ## What a mode allows -/

/-- A character may stand for itself. -/
def hasLiterals (mode : Mode) : Bool :=
  mode.bytes || !mode.caseless

/-- A character may stand for itself in a class. -/
def hasMember (mode : Mode) (code : Nat) : Bool :=
  if mode.bytes then code < 0x80 else !mode.caseless

/-! ## Space -/

/-- A text without what has no meaning at its front. -/
def skip (mode : Mode) (cs : Text) : Text :=
  if mode.spaced then skipSpace false cs else cs

/-- The character behind a dash that tells whether the dash makes a range. In spaced mode it is
looked for behind blanks and one number sign. -/
def beyondDash (mode : Mode) (rest : Text) : Option Char :=
  if mode.spaced then
    match trimFront rest with
    | '#' :: rest' => (trimFront rest').head?
    | rest' => rest'.head?
  else
    rest.head?

end Mode

end Abacus.Log.Pattern
