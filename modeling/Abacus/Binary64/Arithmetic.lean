import Abacus.Binary64.Round

/-!
# Arithmetic on binary64 numbers

Each operation is the exact result on the values in units, rounded once to nearest with ties to
even, with the rules of the format for zeros, infinities and NaNs: an operation without a value
is a NaN, a product or a quotient has the sign of its operands' signs, and an exact zero sum is
positive unless both operands are negative.
-/

namespace Abacus

namespace Binary64

/-- The exact value of a finite number in units. -/
def signedUnits (negative : Bool) (code : Nat) : Int :=
  if negative then -(units code : Int) else units code

/-- The sum, rounded once. -/
def add : Binary64 → Binary64 → Binary64
  | .nan, _ => .nan
  | _, .nan => .nan
  | .infinity s, .infinity t => if s = t then .infinity s else .nan
  | .infinity s, .finite _ _ => .infinity s
  | .finite _ _, .infinity t => .infinity t
  | .finite s a, .finite t b =>
    let sum := signedUnits s a + signedUnits t b
    nearest (sum < 0 || (sum == 0 && s && t)) sum.natAbs 1

/-- The difference, rounded once. -/
def sub (x y : Binary64) : Binary64 :=
  add x y.neg

/-- The product, rounded once. -/
def mul : Binary64 → Binary64 → Binary64
  | .nan, _ => .nan
  | _, .nan => .nan
  | .infinity s, .infinity t => .infinity (s != t)
  | .infinity s, .finite t b => if b.val = 0 then .nan else .infinity (s != t)
  | .finite s a, .infinity t => if a.val = 0 then .nan else .infinity (s != t)
  | .finite s a, .finite t b => nearest (s != t) (units a * units b) unitsPerOne

/-- The quotient, rounded once. -/
def div : Binary64 → Binary64 → Binary64
  | .nan, _ => .nan
  | _, .nan => .nan
  | .infinity _, .infinity _ => .nan
  | .infinity s, .finite t _ => .infinity (s != t)
  | .finite s _, .infinity t => zero (s != t)
  | .finite s a, .finite t b =>
    if b.val = 0 then
      if a.val = 0 then .nan else .infinity (s != t)
    else
      nearest (s != t) (units a * unitsPerOne) (units b)

end Binary64

end Abacus
