/-!
# Binary64 numbers

The numbers of the binary64 format. A finite number is a sign and a magnitude code, the 63 bits
below the sign bit. The codes count the magnitudes upwards from zero, so order and neighbourhood
of magnitudes are order and neighbourhood of natural numbers. `Binary64.units` is the value of a
code in units of the least positive magnitude, `2 ^ (-1074)`; that is exact for every code, and
it gives the code of infinity the value `2 ^ 1024` at which rounding overflows.
`Binary64.units_lt_units`: a greater code has a greater value.

The format tells NaNs apart by a payload. No text and no arithmetic here depends on it, so there
is one NaN.
-/

namespace Abacus

/-- The code of infinity, one above the code of the greatest finite magnitude. -/
abbrev infinityCode : Nat := 0x7FF0000000000000

/-- The number of codes in a binade, `2 ^ 52`. -/
abbrev binadeSize : Nat := 0x10000000000000

/-- A power of two. -/
def twoPow (n : Nat) : Nat :=
  Nat.pow 2 n

theorem twoPow_pos (n : Nat) : 0 < twoPow n :=
  Nat.pow_pos (by decide)

theorem twoPow_succ (n : Nat) : twoPow (n + 1) = 2 * twoPow n := by
  show Nat.pow 2 n * 2 = 2 * Nat.pow 2 n
  exact Nat.mul_comm _ _

/-- The number of units, each `2 ^ (-1074)`, in one. -/
def unitsPerOne : Nat :=
  twoPow 1074

theorem unitsPerOne_eq : unitsPerOne = twoPow 1074 := rfl

-- No proof step is to take the power apart factor by factor.
attribute [irreducible] unitsPerOne

theorem unitsPerOne_pos : 0 < unitsPerOne := by
  rw [unitsPerOne_eq]
  exact twoPow_pos 1074

/-- A binary64 number; zeros carry their sign, and a NaN carries nothing. -/
inductive Binary64 where
  | nan
  | infinity (negative : Bool)
  | finite (negative : Bool) (code : Fin infinityCode)
  deriving DecidableEq

namespace Binary64

/-! ## Values -/

/-- The value of a magnitude code in units of `2 ^ (-1074)`. The low 52 bits of a code are its
fraction and the bits above them its exponent; exponent 0 has no hidden bit. -/
def units (code : Nat) : Nat :=
  if code < binadeSize then code
  else (binadeSize + code % binadeSize) * twoPow (code / binadeSize - 1)

/-- The number of a sign and a code; codes from infinity's on are infinite. -/
def ofCode (negative : Bool) (code : Nat) : Binary64 :=
  if h : code < infinityCode then .finite negative ⟨code, h⟩ else .infinity negative

/-- The zero of a sign. -/
def zero (negative : Bool) : Binary64 :=
  .finite negative 0

/-- Neither an infinity nor a NaN. -/
def isFinite : Binary64 → Bool
  | .finite _ _ => true
  | _ => false

/-- A zero of either sign. -/
def isZero : Binary64 → Bool
  | .finite _ code => code.val == 0
  | _ => false

/-- The number of opposite sign. -/
def neg : Binary64 → Binary64
  | .nan => .nan
  | .infinity negative => .infinity (!negative)
  | .finite negative code => .finite (!negative) code

/-- Numerical equality: the two zeros are equal, and a NaN equals nothing. -/
def numEq : Binary64 → Binary64 → Bool
  | .finite s a, .finite t b => (a == b && s == t) || (a.val == 0 && b.val == 0)
  | .infinity s, .infinity t => s == t
  | _, _ => false

/-! ## Order -/

theorem units_zero : units 0 = 0 := rfl

theorem units_of_lt {code : Nat} (h : code < binadeSize) : units code = code :=
  if_pos h

theorem units_of_le {code : Nat} (h : binadeSize ≤ code) :
    units code = (binadeSize + code % binadeSize) * twoPow (code / binadeSize - 1) :=
  if_neg (Nat.not_lt.2 h)

theorem units_lt_units_succ (code : Nat) : units code < units (code + 1) := by
  by_cases hlast : code + 1 < binadeSize
  · rw [units_of_lt hlast, units_of_lt (Nat.lt_of_succ_lt hlast)]
    exact Nat.lt_succ_self code
  by_cases hfirst : code < binadeSize
  · have hcode : code + 1 = binadeSize := by omega
    rw [units_of_lt hfirst, hcode]
    exact hfirst
  have hle : binadeSize ≤ code := Nat.not_lt.1 hfirst
  rw [units_of_le hle, units_of_le (Nat.le_succ_of_le hle)]
  have hpos := twoPow_pos (code / binadeSize - 1)
  simp only [binadeSize] at *
  by_cases hend : code % 0x10000000000000 + 1 < 0x10000000000000
  · have hmod : (code + 1) % 0x10000000000000 = code % 0x10000000000000 + 1 := by omega
    have hdiv : (code + 1) / 0x10000000000000 = code / 0x10000000000000 := by omega
    rw [hmod, hdiv]
    exact Nat.mul_lt_mul_of_pos_right (by omega) hpos
  · have hmod : (code + 1) % 0x10000000000000 = 0 := by omega
    have hdiv : (code + 1) / 0x10000000000000 - 1 = code / 0x10000000000000 - 1 + 1 := by omega
    rw [hmod, hdiv, twoPow_succ, ← Nat.mul_assoc]
    exact Nat.mul_lt_mul_of_pos_right (by omega) hpos

/-- The codes are in the order of their values. -/
theorem units_lt_units {a b : Nat} (h : a < b) : units a < units b := by
  induction h with
  | refl => exact units_lt_units_succ a
  | step _ ih => exact Nat.lt_trans ih (units_lt_units_succ _)

/-! ## Bits -/

/-- The weight of a sign in the 64 bits of a number. -/
def signBit (negative : Bool) : Nat :=
  if negative then 0x8000000000000000 else 0

/-- The 64 bits of a number; a NaN gets the bits of the quiet one without a payload. -/
def toBits : Binary64 → Nat
  | .nan => 0x7FF8000000000000
  | .infinity negative => signBit negative + infinityCode
  | .finite negative code => signBit negative + code

/-- The number of 64 bits; codes above infinity's are NaNs. -/
def ofBits (bits : Nat) : Binary64 :=
  let code := bits % 0x8000000000000000
  if infinityCode < code then .nan else ofCode (bits / 0x8000000000000000 % 2 == 1) code

theorem ofCode_val (negative : Bool) (code : Fin infinityCode) :
    ofCode negative code = .finite negative code := by
  simp [ofCode]

/-- The bits of a number are those of no other number. -/
theorem ofBits_toBits (x : Binary64) : ofBits (toBits x) = x := by
  cases x with
  | nan => rfl
  | infinity negative => cases negative <;> rfl
  | finite negative code =>
    obtain ⟨c, hc⟩ := code
    have bound : c < 9218868437227405312 := hc
    cases negative
    · have h1 : c % 9223372036854775808 = c := by omega
      have h2 : c / 9223372036854775808 = 0 := by omega
      have h3 : ¬ 9218868437227405312 < c := by omega
      simp [ofBits, toBits, signBit, ofCode, h1, h2, h3, bound]
    · have h1 : (9223372036854775808 + c) % 9223372036854775808 = c := by omega
      have h2 : (9223372036854775808 + c) / 9223372036854775808 = 1 := by omega
      have h3 : ¬ 9218868437227405312 < c := by omega
      simp [ofBits, toBits, signBit, ofCode, h1, h2, h3, bound]

end Binary64

end Abacus
