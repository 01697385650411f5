import Abacus.Binary64.Round
import Mathlib.Tactic.Ring

/-!
# Laws of rounding

What rounding to a magnitude depends on and what it leaves alone. `Binary64.nearestCode_congr`:
equal quotients get the same code, however they are written as fractions.
`Binary64.nearestCode_units_mul`: a quotient that is a magnitude gets the code of that magnitude.
At the two ends, `Binary64.nearestCode_eq_infinityCode` names the quotients that surely overflow
and `Binary64.nearestCode_eq_zero` those that surely vanish.
-/

namespace Abacus

theorem twoPow_add (m n : Nat) : twoPow (m + n) = twoPow m * twoPow n :=
  pow_add 2 m n

theorem twoPow_mul (m n : Nat) : twoPow (m * n) = twoPow m ^ n :=
  pow_mul 2 m n

theorem twoPow_le_twoPow {m n : Nat} (h : m ≤ n) : twoPow m ≤ twoPow n :=
  Nat.pow_le_pow_right (by decide) h

theorem le_log2_of_twoPow_le {k n : Nat} (h : twoPow k ≤ n) : k ≤ Nat.log2 n :=
  (Nat.le_log2 (Nat.lt_of_lt_of_le (twoPow_pos k) h).ne').2 h

/-! ## Rounded quotients -/

theorem roundDivEven_mul_right (n d : Nat) {k : Nat} (hk : 0 < k) :
    roundDivEven (n * k) (d * k) = roundDivEven n d := by
  have hlt : 2 * (n % d * k) < d * k ↔ 2 * (n % d) < d := by
    rw [← Nat.mul_assoc]
    exact Nat.mul_lt_mul_right hk
  have heq : 2 * (n % d * k) = d * k ↔ 2 * (n % d) = d := by
    rw [← Nat.mul_assoc]
    exact Nat.mul_left_inj hk.ne'
  simp only [roundDivEven, Nat.mul_div_mul_right _ _ hk, Nat.mul_mod_mul_right, hlt, heq]

/-- A whole quotient is not rounded. -/
theorem roundDivEven_mul_self (q : Nat) {d : Nat} (hd : 0 < d) : roundDivEven (q * d) d = q := by
  simp [roundDivEven, Nat.mul_div_cancel _ hd, hd]

/-- A quotient below a half is rounded down. -/
theorem roundDivEven_eq_zero {n d : Nat} (h : 2 * n < d) : roundDivEven n d = 0 := by
  have hn : n < d := by omega
  simp [roundDivEven, Nat.div_eq_of_lt hn, Nat.mod_eq_of_lt hn, h]

namespace Binary64

/-! ## Equal quotients -/

theorem nearestCode_mul_right (n d : Nat) {k : Nat} (hk : 0 < k) :
    nearestCode (n * k) (d * k) = nearestCode n d := by
  have hstep : stepExponent (n * k) (d * k) = stepExponent n d := by
    rw [stepExponent, Nat.mul_div_mul_right _ _ hk, stepExponent]
  simp only [nearestCode, hstep]
  rw [Nat.mul_right_comm d k, roundDivEven_mul_right _ _ hk]

/-- Equal quotients have the same code. -/
theorem nearestCode_congr {n d n' d' : Nat} (hd : 0 < d) (hd' : 0 < d') (h : n * d' = n' * d) :
    nearestCode n d = nearestCode n' d' := by
  calc nearestCode n d = nearestCode (n * d') (d * d') := (nearestCode_mul_right n d hd').symm
    _ = nearestCode (n' * d) (d' * d) := by rw [h, Nat.mul_comm d d']
    _ = nearestCode n' d' := nearestCode_mul_right n' d' hd

/-! ## Magnitudes -/

/-- The leading bit of the value of a code: the grid step of its binade is `2 ^ e` units. -/
theorem log2_units {code : Nat} (h : binadeSize ≤ code) :
    Nat.log2 (units code) = 52 + (code / binadeSize - 1) := by
  have hpos := twoPow_pos (code / binadeSize - 1)
  have hmod : code % binadeSize < binadeSize := Nat.mod_lt _ (by decide)
  have hbinade : 2 ^ 52 = binadeSize := by decide
  have hunits := units_of_le h
  have hne : units code ≠ 0 := by
    rw [hunits]
    exact (Nat.mul_pos (by omega) hpos).ne'
  rw [Nat.log2_eq_iff hne, hunits]
  refine ⟨?_, ?_⟩
  · rw [pow_add, hbinade]
    exact Nat.mul_le_mul_right _ (Nat.le_add_right _ _)
  · rw [Nat.add_right_comm, pow_add, pow_succ, hbinade]
    exact Nat.mul_lt_mul_of_pos_right (by omega) hpos

theorem stepExponent_units_mul {code d : Nat} (hd : 0 < d) :
    stepExponent (units code * d) d = code / binadeSize - 1 := by
  rw [stepExponent, Nat.mul_div_cancel _ hd]
  by_cases h : code < binadeSize
  · rw [units_of_lt h, Nat.div_eq_of_lt h]
    by_cases hzero : code = 0
    · subst hzero
      rfl
    · have hlog : Nat.log2 code < 52 := (Nat.log2_lt hzero).2 h
      omega
  · rw [log2_units (Nat.not_lt.1 h), Nat.add_sub_cancel_left]

/-- A magnitude is not rounded. -/
theorem nearestCode_units_mul {code d : Nat} (h : code ≤ infinityCode) (hd : 0 < d) :
    nearestCode (units code * d) d = code := by
  rw [nearestCode, stepExponent_units_mul hd]
  by_cases hfirst : code < binadeSize
  · have hstep : code / binadeSize - 1 = 0 := by rw [Nat.div_eq_of_lt hfirst]
    have hround : roundDivEven (code * d) (d * twoPow 0) = code := by
      rw [show d * twoPow 0 = d from Nat.mul_one d, roundDivEven_mul_self code hd]
    rw [units_of_lt hfirst, hstep, hround, Nat.zero_mul, Nat.zero_add, Nat.min_eq_left h]
  · have hle : binadeSize ≤ code := Nat.not_lt.1 hfirst
    have hround : roundDivEven (units code * d) (d * twoPow (code / binadeSize - 1)) =
        binadeSize + code % binadeSize := by
      rw [units_of_le hle, Nat.mul_assoc, Nat.mul_comm (twoPow _) d]
      exact roundDivEven_mul_self _ (Nat.mul_pos hd (twoPow_pos _))
    rw [hround]
    simp only [binadeSize, infinityCode] at *
    omega

/-! ## The two ends -/

/-- From `2 ^ 2099` units on, every quotient overflows. -/
theorem nearestCode_eq_infinityCode {n d : Nat} (hd : 0 < d) (h : twoPow 2099 * d ≤ n) :
    nearestCode n d = infinityCode := by
  have hdiv : twoPow 2099 ≤ n / d := (Nat.le_div_iff_mul_le hd).2 h
  have hlog : 2099 ≤ Nat.log2 (n / d) := le_log2_of_twoPow_le hdiv
  have hstep : 2047 ≤ stepExponent n d := by
    rw [stepExponent]
    omega
  rw [nearestCode]
  refine Nat.min_eq_right ?_
  simp only [binadeSize, infinityCode]
  omega

/-- Below half of a unit every quotient vanishes. -/
theorem nearestCode_eq_zero {n d : Nat} (h : 2 * n < d) : nearestCode n d = 0 := by
  have hstep : stepExponent n d = 0 := by
    rw [stepExponent, Nat.div_eq_of_lt (by omega : n < d)]
    rfl
  rw [nearestCode, hstep, show d * twoPow 0 = d from Nat.mul_one d, roundDivEven_eq_zero h]
  rfl

end Binary64

end Abacus
