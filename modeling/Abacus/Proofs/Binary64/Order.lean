import Abacus.Proofs.Binary64.Nearest
import Mathlib.Algebra.Order.Field.Rat
import Mathlib.Data.Rat.Cast.Order

/-!
# The order of rounding

The code that a rational is rounded to, as a function on the rationals. It is monotone
(`Binary64.roundedCode_mono`), so the rationals that are rounded to one code have no gaps
(`Binary64.roundedCode_between`). They reach to the middles to the next magnitudes, and
`Binary64.units_succ_le` says how far these can be from each other.
-/

namespace Abacus.Binary64

/-! ## Rounding of rationals -/

/-- The code that a rational is rounded to; there is no code below zero. -/
def roundedCode (q : ℚ) : Nat :=
  nearestCode (q.num.toNat * unitsPerOne) q.den

theorem mul_den_eq_num {q : ℚ} (hq : 0 ≤ q) :
    q * (q.den * unitsPerOne) = (q.num.toNat * unitsPerOne : Nat) := by
  have hnum : ((q.num.toNat : Nat) : ℚ) = q.num := by
    exact_mod_cast Int.toNat_of_nonneg (Rat.num_nonneg.2 hq)
  rw [← mul_assoc, Rat.mul_den_eq_num, Nat.cast_mul, hnum]

/-- A quotient has the code of the rational that it is. -/
theorem nearestCode_eq_roundedCode {n d : Nat} {q : ℚ} (hd : 0 < d)
    (hq : q * (d * unitsPerOne) = n) : nearestCode n d = roundedCode q := by
  have hpos : (0 : ℚ) < d * unitsPerOne := mul_pos (Nat.cast_pos.2 hd) cast_unitsPerOne_pos
  have hnonneg : 0 ≤ q := by
    refine nonneg_of_mul_nonneg_left ?_ hpos
    rw [hq]
    exact Nat.cast_nonneg n
  refine nearestCode_congr hd q.den_pos ?_
  have hrat : (n * q.den : ℚ) = (q.num.toNat * unitsPerOne : Nat) * d := by
    rw [← hq, ← mul_den_eq_num hnonneg]
    ring
  exact_mod_cast hrat

theorem roundedCode_of_neg {q : ℚ} (hq : q < 0) : roundedCode q = 0 := by
  have hnum : q.num.toNat = 0 := Int.toNat_of_nonpos (Rat.num_neg.2 hq).le
  refine nearestCode_eq_zero ?_
  rw [hnum, Nat.zero_mul, Nat.mul_zero]
  exact q.den_pos

/-- A magnitude is rounded to its code. -/
theorem roundedCode_magnitude {code : Nat} (h : code ≤ infinityCode) :
    roundedCode (magnitude code) = code := by
  have hunits : magnitude code * ((1 : Nat) * unitsPerOne) = (units code * 1 : Nat) := by
    rw [Nat.cast_one, one_mul, Nat.mul_one, magnitude,
      div_mul_cancel₀ _ cast_unitsPerOne_pos.ne']
  rw [← nearestCode_eq_roundedCode Nat.one_pos hunits, nearestCode_units_mul h Nat.one_pos]

/-! ## Middles -/

/-- A rational is not below the middle between its code and a smaller one. -/
theorem middle_le_of_lt_roundedCode {q : ℚ} {code : Nat} (h : code < roundedCode q) :
    magnitude code + magnitude (roundedCode q) ≤ 2 * q := by
  rcases lt_or_ge q 0 with hq | hq
  · rw [roundedCode_of_neg hq] at h
    exact absurd h (Nat.not_lt_zero _)
  · exact (middle_lt q.den_pos (mul_den_eq_num hq) h).elim le_of_lt fun heq => heq.1.le

/-- A rational is not above the middle between its code and a greater one. -/
theorem le_middle_of_roundedCode_lt {q : ℚ} {code : Nat} (h : roundedCode q < code)
    (hcode : code ≤ infinityCode) : 2 * q ≤ magnitude (roundedCode q) + magnitude code := by
  rcases lt_or_ge q 0 with hq | hq
  · have hsum := add_nonneg (magnitude_nonneg (roundedCode q)) (magnitude_nonneg code)
    linarith
  · exact (lt_middle q.den_pos (mul_den_eq_num hq) h hcode).elim le_of_lt fun heq => heq.1.le

/-- Rounding keeps the order of rationals. -/
theorem roundedCode_mono {p q : ℚ} (h : p ≤ q) : roundedCode p ≤ roundedCode q := by
  by_contra hlt
  have hlt := Nat.not_le.1 hlt
  have hp := middle_le_of_lt_roundedCode hlt
  have hq := le_middle_of_roundedCode_lt hlt (nearestCode_le _ _)
  -- Both would be the middle, and so be equal.
  have heq : p = q := by linarith
  rw [heq] at hlt
  exact Nat.lt_irrefl _ hlt

/-- What is between two rationals of one code has that code. -/
theorem roundedCode_between {p q r : ℚ} {code : Nat} (hpq : p ≤ q) (hqr : q ≤ r)
    (hp : roundedCode p = code) (hr : roundedCode r = code) : roundedCode q = code :=
  Nat.le_antisymm (hr ▸ roundedCode_mono hqr) (hp ▸ roundedCode_mono hpq)

/-! ## Distances of magnitudes -/

/-- Where a code is on the grid of its binade. -/
theorem exists_onGrid (code : Nat) :
    ∃ e r, code = e * binadeSize + r ∧ (e = 0 ∨ binadeSize ≤ r) ∧ r < 2 * binadeSize := by
  refine ⟨code / binadeSize - 1, code - (code / binadeSize - 1) * binadeSize, ?_⟩
  simp only [binadeSize]
  omega

/-- A magnitude is at most one part in `k` above the one before it, if there are `k` magnitudes
below that and not more than in a binade. -/
theorem units_succ_le {k code : Nat} (hk : k ≤ code) (hbinade : k ≤ binadeSize) :
    k * units (code + 1) ≤ (k + 1) * units code := by
  obtain ⟨e, r, rfl, hlow, hhigh⟩ := exists_onGrid code
  have hkr : k ≤ r := by
    rcases hlow with rfl | hlow
    · omega
    · exact hbinade.trans hlow
  rw [Nat.add_assoc, units_onGrid hlow hhigh.le,
    units_onGrid (hlow.imp_right Nat.le_succ_of_le) hhigh, ← Nat.mul_assoc, ← Nat.mul_assoc]
  refine Nat.mul_le_mul_right _ ?_
  calc k * (r + 1) = k * r + k := Nat.mul_succ k r
    _ ≤ k * r + r := Nat.add_le_add_left hkr _
    _ = (k + 1) * r := (Nat.succ_mul k r).symm

theorem magnitude_succ_le {k code : Nat} (hk : k ≤ code) (hbinade : k ≤ binadeSize) :
    k * magnitude (code + 1) ≤ (k + 1) * magnitude code := by
  have hunits : (k * units (code + 1) : ℚ) ≤ (k + 1) * units code := by
    exact_mod_cast units_succ_le hk hbinade
  rw [magnitude, magnitude, ← mul_div_assoc, ← mul_div_assoc]
  exact div_le_div_of_nonneg_right hunits cast_unitsPerOne_pos.le

/-! ## Rounding to a number -/

/-- A rational rounds to a finite number: it is short of the overflow, and the number is nearest
to it. -/
structure RoundsTo (q : ℚ) (x : Binary64) : Prop where
  short : |q| < overflow
  isNearest : x.IsNearest q

/-- What is not rounded to a zero keeps its sign. -/
theorem IsNearest.isNegative_eq {x : Binary64} {negative : Bool} {m : ℚ}
    (h : x.IsNearest (signed negative m)) (hm : 0 ≤ m) (hzero : x.isZero = false) :
    x.isNegative = negative := by
  match x, h.isFinite with
  | .finite s code, _ =>
    by_contra hne
    have hsigns : ¬s = negative := hne
    have hcode : 0 < code.val := by
      refine Nat.pos_of_ne_zero fun hcode => ?_
      simp [isZero, hcode] at hzero
    have hpos := magnitude_lt_magnitude hcode
    rw [magnitude_zero] at hpos
    -- The zero would be nearer.
    have hnear := h.nearest (zero negative) rfl
    change |signed s (magnitude code) - signed negative m| ≤
      |signed negative (magnitude 0) - signed negative m| at hnear
    rw [abs_signed_sub, abs_signed_sub, if_neg hsigns, if_pos rfl, magnitude_zero, zero_sub, abs_neg,
      abs_of_nonneg hm, abs_of_nonneg (by linarith)] at hnear
    linarith

end Abacus.Binary64
