import Abacus.Decimal.Shortest

/-!
# Layouts of numbers

A `Layout` fixes how a shortest decimal becomes text: between which exponents of the leading
digit it is positional, whether a whole number keeps a point, and how ties go. All else is common
to the layouts: scientific notation has a point after the first digit only if there are more, and
an exponent without a plus sign; infinities and the NaN have names.
-/

namespace Abacus

/-- The choices of a number format. -/
structure Layout where
  /-- The least exponent of a leading digit that is written positionally; without it, all. -/
  least : Option Int
  /-- The greatest exponent of a leading digit that is written positionally; without it, all. -/
  greatest : Option Int
  /-- Whether a whole number in positional notation ends in `.0`. -/
  keepPoint : Bool
  /-- Which of two equally near decimals is written. -/
  tie : Tie

namespace Layout

/-- Whether a number whose leading digit has this exponent is written positionally. -/
def isPositional (layout : Layout) (leading : Int) : Bool :=
  layout.least.all (· ≤ leading) && layout.greatest.all (leading ≤ ·)

/-- Digits times `10 ^ p` in positional notation. -/
def positional (layout : Layout) (digits : List Char) (p : Int) : List Char :=
  if 0 ≤ p then
    digits ++ List.replicate p.toNat '0' ++ (if layout.keepPoint then ".0".toList else [])
  else
    let places := (-p).toNat
    let padded := List.replicate (places + 1 - digits.length) '0' ++ digits
    padded.take (padded.length - places) ++ '.' :: padded.drop (padded.length - places)

/-- An integer, with a minus sign if it is negative. -/
def integer (i : Int) : List Char :=
  if i < 0 then '-' :: toDigits i.natAbs else toDigits i.natAbs

/-- Digits in scientific notation, the leading one at an exponent. -/
def scientific (digits : List Char) (leading : Int) : List Char :=
  match digits with
  | first :: second :: rest => first :: '.' :: second :: rest ++ 'e' :: integer leading
  | few => few ++ 'e' :: integer leading

/-- A decimal without its sign. -/
def magnitude (layout : Layout) (decimal : Decimal) : List Char :=
  let digits := toDigits decimal.digits
  let leading := decimal.exponent + digits.length - 1
  if layout.isPositional leading then
    layout.positional digits decimal.exponent
  else
    scientific digits leading

/-- A minus sign where there is one. -/
def sign (negative : Bool) : List Char :=
  if negative then ['-'] else []

/-- The text of a number. -/
def print (layout : Layout) : Binary64 → Text
  | .nan => "NaN".toList
  | .infinity negative => sign negative ++ "inf".toList
  | .finite negative code =>
    sign negative ++ layout.magnitude (.shortest layout.tie code)

/-- Results and listings: positional from `0.0001` to below `10 ^ 16`, a point always, ties up. -/
def result : Layout :=
  ⟨some (-4), some 15, true, .up⟩

/-- Fields of a table: positional from `0.00001` to below `10 ^ 16`, a point always, ties to even
digits. -/
def field : Layout :=
  ⟨some (-5), some 15, true, .even⟩

/-- Expressions: positional at every size, whole numbers without a point, ties up. -/
def plain : Layout :=
  ⟨none, none, false, .up⟩

end Layout

end Abacus
