import Abacus.Decimal.Numeral

/-!
# Shortest decimals

The shortest decimal of a magnitude is found on the coarsest grid of multiples of a power of ten
on which one of the magnitude's two neighbours reads back as the magnitude. Reading back is the
rounding of numerals itself, so what is printed is what `Numeral.decimalCode` inverts. Of two
neighbours that both read back the nearer is taken, and a `Tie` decides between two that are
equally near.
-/

namespace Abacus

/-- Which of two equally near decimals is taken. -/
inductive Tie where
  | up
  | even
  deriving DecidableEq

/-- The decimal `digits * 10 ^ exponent`. -/
structure Decimal where
  digits : Nat
  exponent : Int
  deriving DecidableEq

namespace Decimal

/-- The two multiples of `10 ^ p` around the value of a code, the preferred one first. -/
def neighbours (tie : Tie) (code : Nat) (p : Int) : List Nat :=
  let n := Binary64.units code * tenDen p
  let d := unitsPerOne * tenNum p
  let below := n / d
  let r := n % d
  if 2 * r < d ∨ (2 * r = d ∧ tie = .even ∧ below % 2 = 0) then
    [below, below + 1]
  else
    [below + 1, below]

/-- The preferred neighbour on the grid of `10 ^ p` that reads back as the code. -/
def onGrid? (tie : Tie) (code : Nat) (p : Int) : Option Decimal :=
  ((neighbours tie code p).find? fun m => Numeral.decimalCode m p == code).map (⟨·, p⟩)

/-- The first decimal that reads back as the code, on the grids from `10 ^ p` downwards; on the
last grid the value itself lies. -/
def search (tie : Tie) (code : Nat) : Nat → Int → Decimal
  | 0, p => ⟨Binary64.units code * tenDen p / (unitsPerOne * tenNum p), p⟩
  | steps + 1, p =>
    match onGrid? tie code p with
    | some decimal => decimal
    | none => search tie code steps (p - 1)

/-- An exponent whose power of ten is above every decimal that reads back as the code: the value
is below `2 ^ (x + 2)`, and a power of two is below the power of eight, or of sixteen, above it. -/
def coarsest (code : Nat) : Int :=
  let x : Int := (Nat.log2 (Binary64.units code) : Int) - 1074
  if 0 ≤ x + 2 then (x + 2) / 3 + 1 else (x + 2) / 4 + 1

/-- The decimal of fewest digits that reads back as the code, and the nearest of those. -/
def shortest (tie : Tie) (code : Nat) : Decimal :=
  if code = 0 then
    ⟨0, 0⟩
  else
    let start := coarsest code
    search tie code (start + 1074).toNat start

end Decimal

end Abacus
