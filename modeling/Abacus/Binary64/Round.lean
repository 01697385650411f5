import Abacus.Binary64.Basic

/-!
# Rounding to binary64

Every quotient of natural numbers is rounded to the nearest magnitude, and a tie goes to the even
code. The grid of magnitudes is uniform inside a binade, and consecutive codes run through
consecutive binades, so one division by the step of the binade finds the code:
`Binary64.nearestCode`. A quotient that rounds past the greatest finite magnitude gets the code
of infinity.
-/

namespace Abacus

/-- The natural number nearest to `n / d`; a tie goes to the even one. -/
def roundDivEven (n d : Nat) : Nat :=
  let q := n / d
  let r := n % d
  if 2 * r < d ∨ (2 * r = d ∧ q % 2 = 0) then q else q + 1

namespace Binary64

/-- The exponent of the grid step, in units, of the binade that holds `n / d`: 53 significant
bits, but never a step below one unit. -/
def stepExponent (n d : Nat) : Nat :=
  Nat.log2 (n / d) - 52

/-- The code of the magnitude nearest to `n / d` units; a tie goes to the even code. -/
def nearestCode (n d : Nat) : Nat :=
  let e := stepExponent n d
  min (e * binadeSize + roundDivEven n (d * twoPow e)) infinityCode

/-- The number of a sign nearest to `n / d` units. -/
def nearest (negative : Bool) (n d : Nat) : Binary64 :=
  ofCode negative (nearestCode n d)

theorem nearestCode_le (n d : Nat) : nearestCode n d ≤ infinityCode :=
  Nat.min_le_right _ _

end Binary64

end Abacus
