import Abacus.Text.Basic
import Abacus.Text.Printable

/-!
# Quoted texts

A text between double quotes with its quotes, backslashes and controls escaped, as the log shows
the lines it names. What does not show as a character of its own is written by its code point.
-/

namespace Abacus

/-- A code point in braces after `\u`. -/
def codePoint (c : Char) : Text :=
  "\\u\x7b".toList ++ Nat.toDigits 16 c.toNat ++ ['\x7d']

/-- A character inside quotes. -/
def quoteChar (c : Char) : Text :=
  if c = '\x00' then "\\0".toList
  else if c = '\t' then "\\t".toList
  else if c = '\n' then "\\n".toList
  else if c = '\r' then "\\r".toList
  else if c = '\\' then "\\\\".toList
  else if c = '"' then "\\\"".toList
  else if isPrintable c then [c]
  else codePoint c

/-- A text in quotes. -/
def quote (cs : Text) : Text :=
  '"' :: cs.flatMap quoteChar ++ ['"']

/-- A text for a terminal: the controls that could steer one are written by their codes. -/
def disarm (cs : Text) : Text :=
  cs.flatMap fun c =>
    if c = '\x1b' then "\\x1b".toList
    else if c = '\x07' then "\\x07".toList
    else if c = '\x08' then "\\x08".toList
    else if c = '\x0c' then "\\x0c".toList
    else if c = '\x7f' then "\\x7f".toList
    else if 0x80 ≤ c.toNat ∧ c.toNat ≤ 0x9F then codePoint c
    else [c]

end Abacus
