import Abacus.Binary64.Round
import Abacus.Decimal.Digits
import Abacus.Text.Basic

/-!
# Decimal numerals

The written numbers that are read as binary64: an optional sign, then either `inf`, `infinity` or
`nan` in any case, or decimal digits with at most one point and at least one digit, and
optionally `e` or `E` with an exponent of its own sign and at least one digit. `Numeral.read?`
takes the text apart, and `Numeral.toBinary64` rounds its exact value once, whatever the number
of digits and the size of the exponent. `Binary64.read?` joins the two, and `Binary64.operand?`
also refuses what is not finite.
-/

namespace Abacus

/-- What a numeral says; a decimal stands for `digits * 10 ^ exponent` with the sign written. -/
inductive Numeral where
  | nan
  | infinity (negative : Bool)
  | decimal (negative : Bool) (digits : Nat) (exponent : Int)
  deriving DecidableEq

/-- The numerator of `10 ^ p`, taken as a fraction. -/
def tenNum (p : Int) : Nat :=
  Nat.pow 10 p.toNat

/-- The denominator of `10 ^ p`, taken as a fraction. -/
def tenDen (p : Int) : Nat :=
  Nat.pow 10 (-p).toNat

namespace Numeral

/-! ## Reading -/

/-- An optional sign in front: whether it is a minus, and what follows it. -/
def splitSign : List Char → Bool × List Char
  | '-' :: rest => (true, rest)
  | '+' :: rest => (false, rest)
  | rest => (false, rest)

/-- The exponent that ends a numeral: nothing, or a mark, an optional sign and digits. -/
def exponent? : List Char → Option Int
  | [] => some 0
  | mark :: rest =>
    let (negative, digits) := splitSign rest
    if (mark = 'e' ∨ mark = 'E') ∧ digits ≠ [] ∧ digits.all Char.isDigit then
      some (if negative then -(ofDigits digits : Int) else ofDigits digits)
    else
      none

/-- The digits after a point, if there is one, and what follows them. -/
def splitFraction : List Char → List Char × List Char
  | '.' :: rest => rest.span Char.isDigit
  | rest => ([], rest)

/-- A numeral without its sign. -/
def unsigned? (negative : Bool) (body : List Char) : Option Numeral :=
  let (whole, rest) := body.span Char.isDigit
  let (fraction, tail) := splitFraction rest
  if whole = [] ∧ fraction = [] then
    none
  else
    (exponent? tail).map fun e =>
      .decimal negative (ofDigits (whole ++ fraction)) (e - fraction.length)

/-- The numeral that a text writes, if it writes one. -/
def read? (text : Text) : Option Numeral :=
  let (negative, body) := splitSign text
  let word := body.map Char.toLower
  if word = "inf".toList ∨ word = "infinity".toList then
    some (.infinity negative)
  else if word = "nan".toList then
    some .nan
  else
    unsigned? negative body

/-! ## Value -/

/-- The code of the magnitude nearest to `digits * 10 ^ exponent`. Two bounds keep the powers of
ten in proportion to the digits: from `10 ^ 310` on every number but zero overflows, and
`digits < 2 ^ (log2 digits + 1)` with `8 ^ k < 10 ^ k` puts a number below half of the least
magnitude. -/
def decimalCode (digits : Nat) (exponent : Int) : Nat :=
  if digits = 0 then
    0
  else if 310 ≤ exponent then
    infinityCode
  else if Nat.log2 digits + 1076 < 3 * (-exponent).toNat then
    0
  else
    Binary64.nearestCode (digits * tenNum exponent * unitsPerOne) (tenDen exponent)

/-- The binary64 number nearest to a numeral, with the numeral's own sign. -/
def toBinary64 : Numeral → Binary64
  | .nan => .nan
  | .infinity negative => .infinity negative
  | .decimal negative digits exponent => .ofCode negative (decimalCode digits exponent)

end Numeral

namespace Binary64

/-- The number that a text writes. -/
def read? (text : Text) : Option Binary64 :=
  (Numeral.read? text).map Numeral.toBinary64

/-- The finite number that a text writes. -/
def operand? (text : Text) : Option Binary64 :=
  (read? text).filter isFinite

end Binary64

end Abacus
