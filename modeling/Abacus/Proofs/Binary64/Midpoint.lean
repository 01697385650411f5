import Abacus.Proofs.Binary64.Rounding
import Mathlib.Tactic.Linarith

/-!
# Quotients and the midpoints of magnitudes

Where a quotient lies between its code's magnitude and the others. In the binade of a quotient the
magnitudes are a grid of one step, and above and below the binade they are not closer to the
quotient's code than the grid, but for the first code of a binade, which is below all of it:
`Binary64.exists_step`. So a quotient lies on its code's side of the middle between that code and
any other, or in the middle and the code is even (`Binary64.lt_middle_of_nearestCode_lt`,
`Binary64.middle_lt_of_lt_nearestCode`).
-/

namespace Abacus

/-- A quotient is within a half of what it is rounded to, and in the middle between two natural
numbers it is rounded to the even one. -/
theorem roundDivEven_midpoints (n : Nat) {d : Nat} (hd : 0 < d) :
    let rounded := roundDivEven n d
    (2 * n < 2 * (rounded * d) + d ∨ 2 * n = 2 * (rounded * d) + d ∧ rounded % 2 = 0) ∧
      (2 * (rounded * d) < 2 * n + d ∨ 2 * (rounded * d) = 2 * n + d ∧ rounded % 2 = 0) := by
  intro rounded
  have hn := Nat.div_add_mod n d
  have hr := Nat.mod_lt n hd
  simp only [rounded, roundDivEven]
  split
  · next hq =>
    rw [Nat.mul_comm (n / d) d]
    omega
  · next hq =>
    rw [Nat.add_mul, Nat.mul_comm (n / d) d]
    omega

namespace Binary64

theorem units_le_units {a b : Nat} (h : a ≤ b) : units a ≤ units b :=
  (Nat.lt_or_eq_of_le h).elim (fun hlt => (units_lt_units hlt).le) fun heq => heq ▸ le_rfl

/-! ## The grid of a binade -/

theorem twoPow_52 : twoPow 52 = binadeSize := by decide

/-- The step of the grid leaves a quotient 53 bits, or fewer where the step is one unit. -/
theorem stepExponent_bounds (n : Nat) {d : Nat} (hd : 0 < d) :
    n < 2 * binadeSize * (d * twoPow (stepExponent n d)) ∧
      (stepExponent n d = 0 ∨ binadeSize * (d * twoPow (stepExponent n d)) ≤ n) := by
  have hpow : ∀ k, binadeSize * (d * twoPow k) = twoPow (52 + k) * d := fun k => by
    rw [twoPow_add, twoPow_52]
    ring
  constructor
  · have hlog : n / d < twoPow (Nat.log2 (n / d) + 1) := Nat.lt_log2_self
    have hle : twoPow (Nat.log2 (n / d) + 1) ≤ twoPow (52 + stepExponent n d + 1) :=
      twoPow_le_twoPow (by rw [stepExponent]; omega)
    have hlt := (Nat.div_lt_iff_lt_mul hd).1 (hlog.trans_le hle)
    rwa [twoPow_succ, Nat.mul_assoc, ← hpow, ← Nat.mul_assoc] at hlt
  · refine (Nat.eq_zero_or_pos (stepExponent n d)).imp_right fun hpos => ?_
    have hlog : Nat.log2 (n / d) = 52 + stepExponent n d := by
      rw [stepExponent] at hpos ⊢
      omega
    have hne : n / d ≠ 0 := by
      intro hzero
      rw [hzero, Nat.log2_zero] at hlog
      omega
    have hle : twoPow (52 + stepExponent n d) ≤ n / d := by
      rw [← hlog]
      exact Nat.log2_self_le hne
    rw [hpow]
    exact (Nat.le_div_iff_mul_le hd).1 hle

theorem units_inside {e r : Nat} (hlow : binadeSize ≤ r) (hhigh : r < 2 * binadeSize) :
    units (e * binadeSize + r) = r * twoPow e := by
  have hdiv : (e * binadeSize + r) / binadeSize = e + 1 := by
    simp only [binadeSize] at *
    omega
  have hmod : binadeSize + (e * binadeSize + r) % binadeSize = r := by
    simp only [binadeSize] at *
    omega
  rw [units_of_le (by omega), hdiv, hmod, Nat.add_sub_cancel]

/-- The points of the grid of a binade, its two ends included. -/
theorem units_onGrid {e r : Nat} (hlow : e = 0 ∨ binadeSize ≤ r) (hhigh : r ≤ 2 * binadeSize) :
    units (e * binadeSize + r) = r * twoPow e := by
  rcases Nat.lt_or_ge r binadeSize with hr | hr
  · obtain rfl := hlow.resolve_right (Nat.not_le.2 hr)
    rw [Nat.zero_mul, Nat.zero_add, units_of_lt hr]
    exact (Nat.mul_one r).symm
  rcases Nat.lt_or_eq_of_le hhigh with hr' | rfl
  · exact units_inside hr hr'
  · have hcode : e * binadeSize + 2 * binadeSize = (e + 1) * binadeSize + binadeSize := by ring
    rw [hcode, units_inside le_rfl (by decide), twoPow_succ]
    ring

/-- Behind a point of the grid the next magnitude is a step away, or more at the end of the
binade. -/
theorem le_units_succ_onGrid {e r : Nat} (hlow : e = 0 ∨ binadeSize ≤ r)
    (hhigh : r ≤ 2 * binadeSize) : (r + 1) * twoPow e ≤ units (e * binadeSize + r + 1) := by
  rcases Nat.lt_or_eq_of_le hhigh with hr | rfl
  · rw [Nat.add_assoc, units_onGrid (hlow.imp_right Nat.le_succ_of_le) hr]
  · have hcode : e * binadeSize + 2 * binadeSize + 1 =
        (e + 1) * binadeSize + (binadeSize + 1) := by
      ring
    rw [hcode, units_inside (Nat.le_succ _) (by decide), twoPow_succ]
    have hpos := twoPow_pos e
    nlinarith

/-! ## Midpoints -/

/-- The code of a quotient as if no magnitude were too great for the format. -/
def gridCode (n d : Nat) : Nat :=
  stepExponent n d * binadeSize + roundDivEven n (d * twoPow (stepExponent n d))

theorem nearestCode_eq_min (n d : Nat) : nearestCode n d = min (gridCode n d) infinityCode :=
  rfl

/-- Around a quotient the magnitudes have a step. The quotient is within half of it from its code's
magnitude, and only an even code is a whole half away. Every other magnitude is a step or more away
from that one, unless the code is the first of its binade and below the quotient. -/
theorem exists_step (n : Nat) {d : Nat} (hd : 0 < d) :
    let code := gridCode n d
    ∃ step, (2 * n < 2 * (units code * d) + step ∨
        2 * n = 2 * (units code * d) + step ∧ code % 2 = 0) ∧
      (2 * (units code * d) < 2 * n + step ∨
        2 * (units code * d) = 2 * n + step ∧ code % 2 = 0) ∧
      (∀ above, code < above → units code * d + step ≤ units above * d) ∧
      ∀ below, below < code → units below * d + step ≤ units code * d ∨ units code * d ≤ n := by
  intro code
  generalize he : stepExponent n d = e
  generalize hr : roundDivEven n (d * twoPow e) = r
  have hcode : code = e * binadeSize + r := by
    simp only [code, gridCode, he, hr]
  have hstep : 0 < d * twoPow e := Nat.mul_pos hd (twoPow_pos e)
  obtain ⟨hlt, hle⟩ := stepExponent_bounds n hd
  obtain ⟨habove, hbelow⟩ := roundDivEven_midpoints n hstep
  rw [he] at hlt hle
  rw [hr] at habove hbelow
  -- The rounded quotient is on the grid, if only at its end.
  have hlow : e = 0 ∨ binadeSize ≤ r := hle.imp_right fun hle => by
    have hmul : binadeSize * (d * twoPow e) < (r + 1) * (d * twoPow e) := by
      rw [Nat.add_mul]
      omega
    exact Nat.le_of_lt_succ (Nat.lt_of_mul_lt_mul_right hmul)
  have hhigh : r ≤ 2 * binadeSize := by
    have hmul : r * (d * twoPow e) < (2 * binadeSize + 1) * (d * twoPow e) := by
      rw [Nat.add_mul]
      omega
    exact Nat.le_of_lt_succ (Nat.lt_of_mul_lt_mul_right hmul)
  have heven : r % 2 = 0 → code % 2 = 0 := fun h => by
    simp only [hcode, binadeSize]
    omega
  have hunits : units code * d = r * (d * twoPow e) := by
    rw [hcode, units_onGrid hlow hhigh]
    ring
  refine ⟨d * twoPow e, ?_, ?_, fun above h => ?_, fun below h => ?_⟩
  · rw [hunits]
    exact habove.imp_right fun h => ⟨h.1, heven h.2⟩
  · rw [hunits]
    exact hbelow.imp_right fun h => ⟨h.1, heven h.2⟩
  · calc units code * d + d * twoPow e = (r + 1) * twoPow e * d := by rw [hunits]; ring
      _ ≤ units (code + 1) * d := by
        rw [hcode]
        exact Nat.mul_le_mul_right d (le_units_succ_onGrid hlow hhigh)
      _ ≤ units above * d := Nat.mul_le_mul_right d (units_le_units h)
  · by_cases hfirst : e = 0 ∨ binadeSize < r
    · -- The code below is on the same grid.
      refine .inl ?_
      have hpos : r ≠ 0 := by
        rintro rfl
        rw [hfirst.resolve_right (Nat.not_lt_zero _), Nat.zero_mul] at hcode
        omega
      obtain ⟨s, rfl⟩ := Nat.exists_eq_add_one_of_ne_zero hpos
      have hbelow : units below ≤ units (e * binadeSize + s) := units_le_units (by omega)
      rw [units_onGrid (hfirst.imp_right Nat.le_of_lt_succ) (Nat.le_of_succ_le hhigh)] at hbelow
      calc units below * d + d * twoPow e ≤ s * twoPow e * d + d * twoPow e :=
            Nat.add_le_add_right (Nat.mul_le_mul_right d hbelow) _
        _ = units code * d := by rw [hunits]; ring
    · -- The code is the first of its binade, and the quotient is in that binade.
      obtain ⟨hne, hr⟩ := not_or.1 hfirst
      rw [hunits]
      exact .inr ((Nat.mul_le_mul_right _ (Nat.not_lt.1 hr)).trans (hle.resolve_left hne))

/-- A quotient is below the middle between its code and a greater one, or in the middle and its
code is even. -/
theorem lt_middle_of_nearestCode_lt (n : Nat) {d : Nat} (hd : 0 < d) {code : Nat}
    (h : nearestCode n d < code) (hcode : code ≤ infinityCode) :
    2 * n < (units (nearestCode n d) + units code) * d ∨
      2 * n = (units (nearestCode n d) + units code) * d ∧ nearestCode n d % 2 = 0 := by
  obtain ⟨step, hhalf, -, habove, -⟩ := exists_step n hd
  have hgrid : nearestCode n d = gridCode n d := by
    rw [nearestCode_eq_min] at h ⊢
    omega
  rw [hgrid] at h ⊢
  have := habove code h
  rw [Nat.add_mul]
  omega

/-- A quotient is above the middle between its code and a smaller one, or in the middle and its
code is even. -/
theorem middle_lt_of_lt_nearestCode (n : Nat) {d : Nat} (hd : 0 < d) {code : Nat}
    (h : code < nearestCode n d) :
    (units code + units (nearestCode n d)) * d < 2 * n ∨
      (units code + units (nearestCode n d)) * d = 2 * n ∧ nearestCode n d % 2 = 0 := by
  obtain ⟨step, -, hhalf, -, hbelow⟩ := exists_step n hd
  have hle : nearestCode n d ≤ gridCode n d := Nat.min_le_left _ _
  have hgrid : (units code + units (gridCode n d)) * d < 2 * n ∨
      (units code + units (gridCode n d)) * d = 2 * n ∧ gridCode n d % 2 = 0 := by
    have hlt := Nat.mul_lt_mul_of_pos_right (units_lt_units (h.trans_le hle)) hd
    have := hbelow code (h.trans_le hle)
    rw [Nat.add_mul]
    omega
  rcases Nat.lt_or_eq_of_le hle with hlt | heq
  · -- The quotient overflows, and infinity's code is below that on the grid.
    have hmul := Nat.mul_lt_mul_of_pos_right (units_lt_units hlt) hd
    rw [Nat.add_mul] at *
    omega
  · rwa [heq]

end Binary64

end Abacus
