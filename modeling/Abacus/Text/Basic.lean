/-!
# Texts and bytes

A text is the list of its characters, and what streams and files hold is a list of bytes. Rules
of formats are then recursion on lists.
-/

namespace Abacus

/-- A text, character by character. -/
abbrev Text := List Char

/-- The content of a stream or a file. -/
abbrev Bytes := List UInt8

/-- The byte that ends a line. -/
def lineFeed : UInt8 := 0x0A

end Abacus
