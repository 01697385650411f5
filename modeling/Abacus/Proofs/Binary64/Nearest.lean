import Abacus.Proofs.Binary64.Midpoint
import Mathlib.Algebra.Group.Even
import Mathlib.Algebra.Order.Field.Basic
import Mathlib.Algebra.Order.Ring.Rat
import Mathlib.Tactic.FieldSimp
import Mathlib.Tactic.Linarith

/-!
# Nearest numbers

The exact values of finite numbers as rationals, and what it means that a number is nearest to a
rational: `Binary64.IsNearest`. A quotient is rounded to the number nearest to it
(`Binary64.isNearest_nearest`), unless it reaches the middle between the greatest finite number and
the value at which the format ends: `Binary64.nearestCode_lt_infinityCode_iff`. There is one
nearest number of a sign (`Binary64.IsNearest.unique`), and rounding keeps the order:
`Binary64.IsNearest.value_le`.
-/

namespace Abacus

/-! ## Rationals and their middles -/

section Middles

variable {x y z q : ℚ}

/-- From the middle of two numbers on, the greater one is at least as near. -/
theorem abs_sub_le_of_middle_le (hxy : x < y) (h : x + y ≤ 2 * q) :
    |y - q| ≤ |x - q| ∧ (|x - q| = |y - q| → x + y = 2 * q) := by
  have hx : |x - q| = q - x := by rw [abs_sub_comm, abs_of_nonneg (by linarith)]
  rw [hx]
  refine ⟨abs_le.2 ⟨by linarith, by linarith⟩, fun heq => ?_⟩
  rcases abs_cases (y - q) with ⟨habs, -⟩ | ⟨habs, -⟩
  · linarith
  · linarith

theorem abs_sub_le_of_le_middle (hxy : x < y) (h : 2 * q ≤ x + y) :
    |x - q| ≤ |y - q| ∧ (|y - q| = |x - q| → x + y = 2 * q) := by
  obtain ⟨hle, heq⟩ := abs_sub_le_of_middle_le (neg_lt_neg hxy) (q := -q) (by linarith)
  rw [← neg_sub', ← neg_sub', abs_neg, abs_neg] at hle heq
  exact ⟨hle, fun h => by linarith [heq h]⟩

theorem middle_le_of_abs_sub_le (hxy : x < y) (h : |y - q| ≤ |x - q|) : x + y ≤ 2 * q := by
  rcases le_total (x + y) (2 * q) with hle | hle
  · exact hle
  · obtain ⟨hnear, htie⟩ := abs_sub_le_of_le_middle hxy hle
    exact (htie (h.antisymm hnear)).le

theorem le_middle_of_abs_sub_le (hxy : x < y) (h : |x - q| ≤ |y - q|) : 2 * q ≤ x + y := by
  rcases le_total (2 * q) (x + y) with hle | hle
  · exact hle
  · obtain ⟨hnear, htie⟩ := abs_sub_le_of_middle_le hxy hle
    exact (htie (h.antisymm hnear)).ge

theorem abs_sub_lt_of_between (hq : x + y = 2 * q) (hxz : x < z) (hzy : z < y) :
    |z - q| < |x - q| := by
  rw [abs_sub_comm x, abs_of_pos (by linarith : 0 < q - x)]
  exact abs_lt.2 ⟨by linarith, by linarith⟩

end Middles

/-! ## Values -/

/-- A magnitude with a sign. -/
def signed (negative : Bool) (magnitude : ℚ) : ℚ :=
  if negative then -magnitude else magnitude

theorem signed_zero (negative : Bool) : signed negative 0 = 0 := by
  rw [signed, neg_zero, ite_self]

theorem abs_signed (negative : Bool) (m : ℚ) : |signed negative m| = |m| := by
  cases negative
  · rfl
  · exact abs_neg m

theorem abs_signed_sub (s t : Bool) (a b : ℚ) :
    |signed s a - signed t b| = if s = t then |a - b| else |a + b| := by
  cases s
  · cases t
    · rfl
    · exact congrArg _ (sub_neg_eq_add a b)
  · cases t
    · rw [← abs_neg]
      exact congrArg _ (by simp [signed, add_comm])
    · rw [← abs_neg]
      exact congrArg _ (by simp [signed, add_comm, sub_eq_add_neg])

namespace Binary64

/-- The magnitude of a code. -/
def magnitude (code : Nat) : ℚ :=
  units code / unitsPerOne

/-- The exact value of a finite number. -/
def value : Binary64 → ℚ
  | .finite negative code => signed negative (magnitude code)
  | _ => 0

/-- The sign of a number. -/
def isNegative : Binary64 → Bool
  | .finite negative _ => negative
  | .infinity negative => negative
  | .nan => false

/-- The significand of a finite number, with the hidden bit where there is one. -/
def significand : Binary64 → Nat
  | .finite _ code => if code.val < binadeSize then code else binadeSize + code % binadeSize
  | _ => 0

/-- A finite number is nearest to a rational: no finite number is nearer, and where another value
is as near, the number's significand is even. -/
structure IsNearest (x : Binary64) (q : ℚ) : Prop where
  isFinite : x.isFinite = true
  nearest : ∀ y : Binary64, y.isFinite = true → |x.value - q| ≤ |y.value - q|
  even : ∀ y : Binary64, y.isFinite = true → |y.value - q| = |x.value - q| → y.value ≠ x.value →
    Even x.significand

/-- The middle between the greatest finite number and `2 ^ 1024`. -/
def overflow : ℚ :=
  2 ^ 1024 - 2 ^ 970

theorem cast_unitsPerOne_pos : (0 : ℚ) < unitsPerOne :=
  Nat.cast_pos.2 unitsPerOne_pos

theorem magnitude_zero : magnitude 0 = 0 := by
  rw [magnitude, units_zero, Nat.cast_zero, zero_div]

theorem magnitude_nonneg (code : Nat) : 0 ≤ magnitude code :=
  div_nonneg (Nat.cast_nonneg _) cast_unitsPerOne_pos.le

theorem magnitude_lt_magnitude {a b : Nat} (h : a < b) : magnitude a < magnitude b :=
  div_lt_div_of_pos_right (Nat.cast_lt.2 (units_lt_units h)) cast_unitsPerOne_pos

theorem even_significand_iff (negative : Bool) (code : Fin infinityCode) :
    Even (significand (.finite negative code)) ↔ code.val % 2 = 0 := by
  rw [Nat.even_iff, significand]
  split
  · rfl
  · simp only [binadeSize]
    omega

/-! ## Rounding -/

section Rounding

variable {n d : Nat} {m : ℚ} (hd : 0 < d) (hm : m * (d * unitsPerOne) = n)
include hd hm

/-- A middle of magnitudes is compared with a quotient in units. -/
theorem middle_iff (a b : Nat) :
    (magnitude a + magnitude b < 2 * m ↔ (units a + units b) * d < 2 * n) ∧
      (magnitude a + magnitude b = 2 * m ↔ (units a + units b) * d = 2 * n) := by
  have hpos : (0 : ℚ) < d * unitsPerOne := mul_pos (Nat.cast_pos.2 hd) cast_unitsPerOne_pos
  have hsum : (magnitude a + magnitude b) * (d * unitsPerOne) =
      ((units a + units b) * d : Nat) := by
    have hne := cast_unitsPerOne_pos.ne'
    rw [magnitude, magnitude]
    push_cast
    field_simp
  have hn : 2 * m * (d * unitsPerOne) = (2 * n : Nat) := by
    rw [mul_assoc, hm]
    push_cast
    rfl
  constructor
  · rw [← mul_lt_mul_iff_left₀ hpos, hsum, hn, Nat.cast_lt]
  · rw [← mul_left_inj' hpos.ne', hsum, hn, Nat.cast_inj]

theorem lt_middle_iff (a b : Nat) :
    2 * m < magnitude a + magnitude b ↔ 2 * n < (units a + units b) * d := by
  obtain ⟨hlt, heq⟩ := middle_iff hd hm a b
  rw [← not_le, le_iff_lt_or_eq, hlt, heq, ← le_iff_lt_or_eq, not_le]

theorem middle_lt {code : Nat} (h : code < nearestCode n d) :
    magnitude code + magnitude (nearestCode n d) < 2 * m ∨
      magnitude code + magnitude (nearestCode n d) = 2 * m ∧ nearestCode n d % 2 = 0 := by
  obtain ⟨hlt, heq⟩ := middle_iff hd hm code (nearestCode n d)
  rw [hlt, heq]
  exact middle_lt_of_lt_nearestCode n hd h

theorem lt_middle {code : Nat} (h : nearestCode n d < code) (hcode : code ≤ infinityCode) :
    2 * m < magnitude (nearestCode n d) + magnitude code ∨
      2 * m = magnitude (nearestCode n d) + magnitude code ∧ nearestCode n d % 2 = 0 := by
  obtain ⟨-, heq⟩ := middle_iff hd hm (nearestCode n d) code
  rw [lt_middle_iff hd hm, eq_comm, heq, eq_comm]
  exact lt_middle_of_nearestCode_lt n hd h hcode

/-- No magnitude is nearer to a quotient than that of its code, and only an even code's is no
nearer than another. -/
theorem magnitude_nearestCode {code : Nat} (hcode : code ≤ infinityCode) :
    |magnitude (nearestCode n d) - m| ≤ |magnitude code - m| ∧
      (|magnitude code - m| = |magnitude (nearestCode n d) - m| → code ≠ nearestCode n d →
        nearestCode n d % 2 = 0) := by
  rcases Nat.lt_trichotomy code (nearestCode n d) with hlt | heq | hlt
  · have hmiddle := middle_lt hd hm hlt
    have hle := hmiddle.elim le_of_lt fun h => h.1.le
    obtain ⟨hnear, htie⟩ := abs_sub_le_of_middle_le (magnitude_lt_magnitude hlt) hle
    exact ⟨hnear, fun h _ => (hmiddle.resolve_left (htie h).not_lt).2⟩
  · rw [heq]
    exact ⟨le_rfl, fun _ h => absurd rfl h⟩
  · have hmiddle := lt_middle hd hm hlt hcode
    have hle := hmiddle.elim le_of_lt fun h => h.1.le
    obtain ⟨hnear, htie⟩ := abs_sub_le_of_le_middle (magnitude_lt_magnitude hlt) hle
    exact ⟨hnear, fun h _ => (hmiddle.resolve_left (htie h).not_gt).2⟩

/-- A quotient with a sign is rounded to the number nearest to it. -/
theorem isNearest_nearest (hpos : 0 ≤ m) (negative : Bool) (h : nearestCode n d < infinityCode) :
    (nearest negative n d).IsNearest (signed negative m) := by
  have hx : nearest negative n d = .finite negative ⟨nearestCode n d, h⟩ := dif_pos h
  have hself : |value (.finite negative ⟨nearestCode n d, h⟩) - signed negative m| =
      |magnitude (nearestCode n d) - m| := by
    rw [value, abs_signed_sub, if_pos rfl]
  -- A number of the other sign is no nearer than zero, and as near only if it is a zero.
  have hzero := magnitude_nearestCode hd hm (Nat.zero_le infinityCode)
  rw [magnitude_zero, zero_sub, abs_neg, abs_of_nonneg hpos] at hzero
  rw [hx]
  refine ⟨rfl, fun y hy => ?_, fun y hy => ?_⟩
  · rw [hself]
    match y with
    | .finite s c =>
      rw [value, abs_signed_sub]
      split
      · exact (magnitude_nearestCode hd hm c.isLt.le).1
      · have hc := magnitude_nonneg c
        rw [abs_of_nonneg (add_nonneg hc hpos)]
        linarith [hzero.1]
  · rw [hself, even_significand_iff]
    match y with
    | .finite s c =>
      rw [value, value, abs_signed_sub]
      split
      · next hs =>
        intro htie hne
        refine (magnitude_nearestCode hd hm c.isLt.le).2 htie fun hcode => hne ?_
        rw [hcode, hs]
      · intro htie hne
        have hc := magnitude_nonneg c
        rw [abs_of_nonneg (add_nonneg hc hpos)] at htie
        have hc0 : magnitude c = 0 := by linarith [hzero.1]
        refine hzero.2 (by linarith) fun hcode => hne ?_
        change signed s (magnitude c) = signed negative (magnitude (nearestCode n d))
        rw [hc0, ← hcode, magnitude_zero, signed_zero, signed_zero]

end Rounding

/-! ## Overflow -/

theorem cast_twoPow (n : Nat) : (twoPow n : ℚ) = 2 ^ n := by
  rw [twoPow, Nat.pow_eq, Nat.cast_pow, Nat.cast_ofNat]

theorem middle_overflow : magnitude (infinityCode - 1) + magnitude infinityCode = 2 * overflow := by
  have hunits : units (infinityCode - 1) + units infinityCode + twoPow 2045 = twoPow 2099 := by
    decide +kernel
  have hcast : (units (infinityCode - 1) + units infinityCode : ℚ) =
      twoPow 2099 - twoPow 2045 := by
    rw [← hunits]
    push_cast
    ring
  have hhigh : (2 : ℚ) ^ 2099 = 2 ^ 1024 * 2 ^ 1074 * 2 := by rw [← pow_add, ← pow_succ]
  have hlow : (2 : ℚ) ^ 2045 = 2 ^ 970 * 2 ^ 1074 * 2 := by rw [← pow_add, ← pow_succ]
  rw [magnitude, magnitude, ← add_div, hcast, div_eq_iff cast_unitsPerOne_pos.ne', unitsPerOne_eq,
    cast_twoPow, cast_twoPow, cast_twoPow, hhigh, hlow, ← sub_mul, ← sub_mul, overflow,
    mul_right_comm, mul_comm (_ - _) 2]

/-- A quotient overflows from the middle behind the greatest finite number on. -/
theorem nearestCode_lt_infinityCode_iff {n d : Nat} {m : ℚ} (hd : 0 < d)
    (hm : m * (d * unitsPerOne) = n) : nearestCode n d < infinityCode ↔ m < overflow := by
  have hoverflow := middle_overflow
  constructor
  · intro h
    have hmiddle := lt_middle hd hm h le_rfl
    rcases Nat.lt_or_eq_of_le (Nat.le_sub_one_of_lt h) with hlt | heq
    · have hmag := magnitude_lt_magnitude hlt
      rcases hmiddle with hmiddle | ⟨hmiddle, -⟩
      · linarith
      · linarith
    · -- The code of the greatest finite number is odd.
      rw [heq] at hmiddle
      rcases hmiddle with hmiddle | ⟨-, heven⟩
      · linarith
      · exact absurd heven (by decide)
  · intro h
    refine Nat.lt_of_le_of_ne (nearestCode_le n d) fun hcode => ?_
    have hlast : infinityCode - 1 < nearestCode n d := by
      rw [hcode]
      decide
    have hmiddle := middle_lt hd hm hlast
    rw [hcode] at hmiddle
    rcases hmiddle with hmiddle | ⟨hmiddle, -⟩
    · linarith
    · linarith

/-! ## Laws of nearest numbers -/

/-- No two numbers of a sign are nearest to a rational: both would be even, and the odd one between
them nearer. -/
theorem not_isNearest_of_lt {negative : Bool} {a b : Fin infinityCode} {q : ℚ} (h : a < b)
    (ha : (finite negative a).IsNearest q) : ¬(finite negative b).IsNearest q := by
  intro hb
  have hdist := (ha.nearest _ hb.isFinite).antisymm (hb.nearest _ ha.isFinite)
  have hlt := magnitude_lt_magnitude h
  have hne : value (finite negative a) ≠ value (finite negative b) := by
    cases negative
    · exact hlt.ne
    · exact (neg_lt_neg hlt).ne'
  have hsum : value (finite negative a) + value (finite negative b) = 2 * q := by
    rcases abs_eq_abs.1 hdist with heq | heq
    · exact absurd (sub_left_injective heq) hne
    · linarith
  have heven := (even_significand_iff _ _).1 (ha.even _ hb.isFinite hdist.symm hne.symm)
  have heven' := (even_significand_iff _ _).1 (hb.even _ ha.isFinite hdist hne)
  have hnext : a.val + 1 < b.val := by
    have hval : a.val < b.val := h
    omega
  have hbetween := ha.nearest (finite negative ⟨a + 1, hnext.trans b.isLt⟩) rfl
  have hlow := magnitude_lt_magnitude (Nat.lt_succ_self a.val)
  have hhigh := magnitude_lt_magnitude hnext
  refine absurd hbetween (not_le.2 ?_)
  cases negative
  · exact abs_sub_lt_of_between hsum hlow hhigh
  · rw [hdist]
    exact abs_sub_lt_of_between ((add_comm _ _).trans hsum) (neg_lt_neg hhigh) (neg_lt_neg hlow)

namespace IsNearest

variable {x y : Binary64} {p q : ℚ}

/-- There is one nearest number of a sign. -/
theorem unique (hx : x.IsNearest q) (hy : y.IsNearest q) (hsign : x.isNegative = y.isNegative) :
    x = y := by
  match x, y, hx.isFinite, hy.isFinite with
  | .finite s a, .finite t b, _, _ =>
    obtain rfl : s = t := hsign
    rcases Nat.lt_trichotomy a b with hlt | heq | hlt
    · exact absurd hy (not_isNearest_of_lt hlt hx)
    · rw [Fin.ext heq]
    · exact absurd hx (not_isNearest_of_lt hlt hy)

/-- Rounding keeps the order. -/
theorem value_le (hx : x.IsNearest p) (hy : y.IsNearest q) (h : p < q) : x.value ≤ y.value := by
  by_contra hlt
  have hp := middle_le_of_abs_sub_le (not_le.1 hlt) (hx.nearest y hy.isFinite)
  have hq := le_middle_of_abs_sub_le (not_le.1 hlt) (hy.nearest x hx.isFinite)
  linarith

/-- What is nearest to zero is a zero. -/
theorem value_eq_zero (hx : x.IsNearest 0) : x.value = 0 := by
  have h := hx.nearest (zero false) rfl
  rw [sub_zero, sub_zero, show (zero false).value = 0 from magnitude_zero, abs_zero] at h
  exact abs_nonpos_iff.1 h

end IsNearest

end Binary64

end Abacus
