/-!
# Depths of nesting

How deep a pattern is nested, counted while it is read. Parts that stand together count as one level
more than the deepest of them, but a part alone counts for itself.
-/

namespace Abacus.Log.Pattern

/-- Parts that stand together: how many they are, and how deep the deepest is. -/
structure Bunch where
  count : Nat
  depth : Nat

namespace Bunch

/-- No parts. -/
def empty : Bunch :=
  ⟨0, 0⟩

/-- One part more, of some depth. -/
def add (bunch : Bunch) (depth : Nat) : Bunch :=
  ⟨bunch.count + 1, max bunch.depth depth⟩

/-- How deep the parts are together. -/
def total (bunch : Bunch) : Nat :=
  if bunch.count ≤ 1 then bunch.depth else bunch.depth + 1

end Bunch

end Abacus.Log.Pattern
