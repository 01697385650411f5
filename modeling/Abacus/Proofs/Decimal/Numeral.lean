import Abacus.Decimal.Shortest
import Abacus.Proofs.Binary64.Rounding

/-!
# Values of decimals

The code of a decimal is that of its exact value: `Numeral.decimalCode_eq_nearestCode` takes away
the two bounds that keep powers of ten small, and `Numeral.decimalCode_mul_pow` moves zeros
between the digits and the exponent. `Decimal.decimalCode_shortest`: the shortest decimal of a
magnitude reads back as the magnitude, whichever way ties go.
-/

namespace Abacus

/-! ## Powers of ten -/

theorem tenDen_pos (p : Int) : 0 < tenDen p :=
  Nat.pow_pos (by decide)

theorem tenNum_of_nonpos {p : Int} (h : p ≤ 0) : tenNum p = 1 := by
  rw [tenNum, Int.toNat_of_nonpos h, Nat.pow_eq, pow_zero]

theorem tenDen_of_nonneg {p : Int} (h : 0 ≤ p) : tenDen p = 1 := by
  rw [tenDen, Int.toNat_of_nonpos (by omega), Nat.pow_eq, pow_zero]

theorem pow_le_tenNum {n : Nat} {p : Int} (h : n ≤ p) : 10 ^ n ≤ tenNum p :=
  Nat.pow_le_pow_right (by decide) (by omega)

/-- `10 ^ (p + k)` is `10 ^ p * 10 ^ k`, as fractions. -/
theorem tenNum_mul_pow (p : Int) (k : Nat) :
    tenNum p * 10 ^ k * tenDen (p + k) = tenNum (p + k) * tenDen p := by
  have hexp : p.toNat + k + (-(p + k)).toNat = (p + k).toNat + (-p).toNat := by omega
  show 10 ^ p.toNat * 10 ^ k * 10 ^ (-(p + k)).toNat = 10 ^ (p + k).toNat * 10 ^ (-p).toNat
  rw [← pow_add, ← pow_add, ← pow_add, hexp]

theorem twoPow_le_tenDen {n : Nat} {p : Int} (h : n ≤ 3 * (-p).toNat) : twoPow n ≤ tenDen p :=
  calc twoPow n ≤ twoPow (3 * (-p).toNat) := twoPow_le_twoPow h
    _ = 8 ^ (-p).toNat := twoPow_mul 3 _
    _ ≤ tenDen p := Nat.pow_le_pow_left (by decide) _

theorem tenDen_eq_mul (p : Int) : tenDen p = 5 ^ (-p).toNat * twoPow (-p).toNat :=
  mul_pow 5 2 (-p).toNat

namespace Numeral

/-! ## The code of a decimal -/

theorem nearestCode_of_huge {digits : Nat} {exponent : Int} (hdigits : digits ≠ 0)
    (h : 310 ≤ exponent) :
    Binary64.nearestCode (digits * tenNum exponent * unitsPerOne) (tenDen exponent) =
      infinityCode := by
  have hbase : twoPow 205 ≤ 10 ^ 62 := by decide
  have hten : twoPow 1025 ≤ tenNum exponent :=
    calc twoPow (205 * 5) = twoPow 205 ^ 5 := twoPow_mul 205 5
      _ ≤ (10 ^ 62) ^ 5 := Nat.pow_le_pow_left hbase 5
      _ = 10 ^ (62 * 5) := (pow_mul 10 62 5).symm
      _ ≤ tenNum exponent := pow_le_tenNum (by omega)
  have hdigits' : twoPow 1025 ≤ digits * tenNum exponent :=
    hten.trans (Nat.le_mul_of_pos_left _ (Nat.pos_of_ne_zero hdigits))
  rw [tenDen_of_nonneg (by omega)]
  refine Binary64.nearestCode_eq_infinityCode Nat.one_pos ?_
  rw [Nat.mul_one, show 2099 = 1025 + 1074 from rfl, twoPow_add, unitsPerOne_eq]
  exact Nat.mul_le_mul_right _ hdigits'

theorem nearestCode_of_tiny {digits : Nat} {exponent : Int}
    (h : Nat.log2 digits + 1076 < 3 * (-exponent).toNat) :
    Binary64.nearestCode (digits * tenNum exponent * unitsPerOne) (tenDen exponent) = 0 := by
  have hlog : digits < twoPow (Nat.log2 digits + 1) := Nat.lt_log2_self
  have hnum : tenNum exponent = 1 := tenNum_of_nonpos (by omega)
  refine Binary64.nearestCode_eq_zero ?_
  calc 2 * (digits * tenNum exponent * unitsPerOne)
      = digits * twoPow (1074 + 1) := by
        rw [hnum, Nat.mul_one, Nat.mul_left_comm, twoPow_succ, unitsPerOne_eq]
    _ < twoPow (Nat.log2 digits + 1) * twoPow (1074 + 1) :=
        Nat.mul_lt_mul_of_pos_right hlog (twoPow_pos _)
    _ = twoPow (Nat.log2 digits + 1 + (1074 + 1)) := (twoPow_add _ _).symm
    _ ≤ tenDen exponent := twoPow_le_tenDen (by omega)

/-- The bounds on digits and exponent change no code. -/
theorem decimalCode_eq_nearestCode (digits : Nat) (exponent : Int) :
    decimalCode digits exponent =
      Binary64.nearestCode (digits * tenNum exponent * unitsPerOne) (tenDen exponent) := by
  unfold decimalCode
  split_ifs with hzero hhuge htiny
  · have hden := tenDen_pos exponent
    subst hzero
    exact (Binary64.nearestCode_eq_zero (by simpa using hden)).symm
  · exact (nearestCode_of_huge hzero hhuge).symm
  · exact (nearestCode_of_tiny htiny).symm
  · rfl

/-- Zeros may stand in the digits or in the exponent. -/
theorem decimalCode_mul_pow (digits k : Nat) (exponent : Int) :
    decimalCode (digits * 10 ^ k) exponent = decimalCode digits (exponent + k) := by
  rw [decimalCode_eq_nearestCode, decimalCode_eq_nearestCode]
  refine Binary64.nearestCode_congr (tenDen_pos _) (tenDen_pos _) ?_
  calc digits * 10 ^ k * tenNum exponent * unitsPerOne * tenDen (exponent + k)
      = digits * unitsPerOne * (tenNum exponent * 10 ^ k * tenDen (exponent + k)) := by ring
    _ = digits * unitsPerOne * (tenNum (exponent + k) * tenDen exponent) := by
        rw [tenNum_mul_pow]
    _ = digits * tenNum (exponent + k) * unitsPerOne * tenDen exponent := by ring

end Numeral

namespace Decimal

/-! ## Shortest decimals -/

theorem decimalCode_of_onGrid? {tie : Tie} {code : Nat} {p : Int} {decimal : Decimal}
    (h : onGrid? tie code p = some decimal) :
    Numeral.decimalCode decimal.digits decimal.exponent = code := by
  obtain ⟨m, hm, rfl⟩ := Option.map_eq_some_iff.1 h
  simpa using List.find?_some hm

/-- A unit is a multiple of `10 ^ (-1074)`. -/
theorem tenDen_eq_mul_unitsPerOne {p : Int} (hp : p = -1074) :
    tenDen p = 5 ^ (-p).toNat * unitsPerOne := by
  rw [tenDen_eq_mul, unitsPerOne_eq]
  exact congrArg (fun n => 5 ^ (-p).toNat * twoPow n) (by omega)

/-- On the grid of `10 ^ (-1074)` every magnitude lies. -/
theorem decimalCode_exact {code : Nat} (h : code ≤ infinityCode) {p : Int} (hp : p = -1074) :
    Numeral.decimalCode (Binary64.units code * tenDen p / (unitsPerOne * tenNum p)) p = code := by
  have hden := tenDen_eq_mul_unitsPerOne hp
  have hnum : tenNum p = 1 := tenNum_of_nonpos (by omega)
  have hdigits : Binary64.units code * tenDen p / (unitsPerOne * tenNum p) =
      Binary64.units code * 5 ^ (-p).toNat := by
    rw [hnum, Nat.mul_one, hden, ← Nat.mul_assoc, Nat.mul_div_cancel _ unitsPerOne_pos]
  rw [hdigits, Numeral.decimalCode_eq_nearestCode, hnum, Nat.mul_one, Nat.mul_assoc, ← hden]
  exact Binary64.nearestCode_units_mul h (tenDen_pos p)

theorem decimalCode_search (tie : Tie) {code : Nat} (h : code ≤ infinityCode) (steps : Nat)
    (p : Int) (hp : p = steps - 1074) :
    Numeral.decimalCode (search tie code steps p).digits (search tie code steps p).exponent =
      code := by
  induction steps generalizing p with
  | zero =>
    rw [search]
    exact decimalCode_exact h (by omega)
  | succ steps ih =>
    rw [search]
    split
    · next decimal hdecimal => exact decimalCode_of_onGrid? hdecimal
    · exact ih (p - 1) (by omega)

theorem le_coarsest (code : Nat) : -1074 ≤ coarsest code := by
  unfold coarsest
  simp only
  split_ifs <;> omega

/-- The shortest decimal of a magnitude reads back as the magnitude. -/
theorem decimalCode_shortest (tie : Tie) {code : Nat} (h : code ≤ infinityCode) :
    Numeral.decimalCode (shortest tie code).digits (shortest tie code).exponent = code := by
  have hle := le_coarsest code
  unfold shortest
  split_ifs with hzero
  · subst hzero
    rfl
  · exact decimalCode_search tie h _ _ (by omega)

end Decimal

end Abacus
