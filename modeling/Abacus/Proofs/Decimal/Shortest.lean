import Abacus.Proofs.Binary64.Order
import Abacus.Proofs.Decimal.Operand

/-!
# Shortest decimals are shortest and nearest

The decimals that read back as a magnitude are those that are rounded to its code, and these have
no gaps, so on every grid it is enough to look at the two neighbours of the magnitude
(`Decimal.exists_neighbours`). The search starts on a grid with no decimal that reads back
(`Decimal.decimalCode_coarsest_ne`) and ends on the coarsest grid that has one, at the nearest of
them (`Decimal.isCoarsest_shortest`). No decimal with fewer digits reads back
(`Decimal.IsCoarsest.le_of_reads`), and none with as many digits is nearer
(`Decimal.abs_shortest_sub_le`).
-/

namespace Abacus

open Binary64

/-- The code of a decimal is the one that its value is rounded to. -/
theorem Numeral.decimalCode_eq_roundedCode (digits : Nat) (exponent : Int) :
    decimalCode digits exponent = roundedCode (digits * 10 ^ exponent) := by
  rw [decimalCode_eq_nearestCode]
  refine nearestCode_eq_roundedCode (tenDen_pos exponent) ?_
  push_cast
  rw [← zpow_mul_tenDen]
  ring

open Numeral

namespace Decimal

variable {tie : Tie} {code : Nat} {p : Int}

theorem zpow_ten_pos (p : Int) : (0 : ℚ) < 10 ^ p :=
  zpow_pos (by norm_num) p

theorem zpow_ten_eq (p : Int) : (10 : ℚ) ^ p = 10 * 10 ^ (p - 1) := by
  rw [← zpow_one_add₀ (by norm_num), Int.add_comm, Int.sub_add_cancel]

/-- The exact value. -/
def value (decimal : Decimal) : ℚ :=
  decimal.digits * 10 ^ decimal.exponent

/-- A decimal with zeros behind it reads back on a coarser grid. -/
theorem decimalCode_mul_zpow (k n : Nat) (p : Int) :
    roundedCode (k * 10 ^ n * 10 ^ p) = decimalCode k (p + n) := by
  rw [← decimalCode_mul_pow, decimalCode_eq_roundedCode]
  push_cast
  rfl

/-! ## Neighbours -/

/-- The magnitude of a code in steps of a grid, as a quotient. -/
theorem magnitude_mul_step (code : Nat) (p : Int) :
    magnitude code * (unitsPerOne * tenNum p : Nat) = (units code * tenDen p : Nat) * 10 ^ p := by
  have hne := cast_unitsPerOne_pos.ne'
  rw [magnitude, Nat.cast_mul, Nat.cast_mul, ← zpow_mul_tenDen]
  field_simp

/-- The magnitude of a code on a grid: the whole steps below it, and a part of a step. -/
theorem magnitude_onGrid (code : Nat) (p : Int) :
    let n := units code * tenDen p
    let d := unitsPerOne * tenNum p
    magnitude code = ((n / d : Nat) + (n % d : Nat) / (d : ℚ)) * 10 ^ p ∧
      ((n % d : Nat) / (d : ℚ)) < 1 := by
  intro n d
  have hnum : 0 < tenNum p := Nat.pow_pos (by decide)
  have hd : 0 < d := Nat.mul_pos unitsPerOne_pos hnum
  have hd' : (0 : ℚ) < d := Nat.cast_pos.2 hd
  have hdiv : (d * (n / d : Nat) + (n % d : Nat) : ℚ) = n := by
    exact_mod_cast Nat.div_add_mod n d
  have hunits : magnitude code * d = n * 10 ^ p := magnitude_mul_step code p
  constructor
  · refine mul_right_cancel₀ hd'.ne' ?_
    rw [hunits, ← hdiv]
    field_simp
  · rw [div_lt_one hd', Nat.cast_lt]
    exact Nat.mod_lt n hd

/-- Of two neighbours on a grid around a magnitude, one reads back and is at least as near, if
anything on the grid reads back. -/
theorem reads_below_or_above (hcode : code ≤ infinityCode) {lower k : Nat}
    (hlow : lower * 10 ^ p ≤ magnitude code) (hhigh : magnitude code ≤ (lower + 1 : Nat) * 10 ^ p)
    (hk : decimalCode k p = code) :
    (decimalCode lower p = code ∧
        |lower * 10 ^ p - magnitude code| ≤ |k * 10 ^ p - magnitude code|) ∨
      (decimalCode (lower + 1) p = code ∧
        |(lower + 1 : Nat) * 10 ^ p - magnitude code| ≤ |k * 10 ^ p - magnitude code|) := by
  have hmagnitude := roundedCode_magnitude hcode
  have hgrid : ∀ {a b : Nat}, a ≤ b → (a * 10 ^ p : ℚ) ≤ b * 10 ^ p := fun h =>
    mul_le_mul_of_nonneg_right (Nat.cast_le.2 h) (zpow_ten_pos p).le
  rw [decimalCode_eq_roundedCode] at hk ⊢
  rw [decimalCode_eq_roundedCode]
  rcases Nat.lt_or_ge lower k with hlt | hle
  · have hle := hgrid hlt
    refine .inr ⟨roundedCode_between hhigh hle hmagnitude hk, ?_⟩
    rw [abs_of_nonneg (sub_nonneg.2 hhigh), abs_of_nonneg (sub_nonneg.2 (hhigh.trans hle))]
    exact sub_le_sub_right hle _
  · have hle := hgrid hle
    refine .inl ⟨roundedCode_between hle hlow hk hmagnitude, ?_⟩
    rw [abs_of_nonpos (sub_nonpos.2 hlow), abs_of_nonpos (sub_nonpos.2 (hle.trans hlow))]
    exact neg_le_neg (sub_le_sub_right hle _)

/-- The preferred neighbour is no farther than the other, and whatever reads back on the grid, one
of the two does that is no farther. -/
theorem exists_neighbours (tie : Tie) (hcode : code ≤ infinityCode) (p : Int) :
    ∃ near far, neighbours tie code p = [near, far] ∧
      |near * 10 ^ p - magnitude code| ≤ |far * 10 ^ p - magnitude code| ∧
      ∀ k : Nat, decimalCode k p = code →
        (decimalCode near p = code ∧
          |near * 10 ^ p - magnitude code| ≤ |k * 10 ^ p - magnitude code|) ∨
        (decimalCode far p = code ∧
          |far * 10 ^ p - magnitude code| ≤ |k * 10 ^ p - magnitude code|) := by
  obtain ⟨hmagnitude, hpart⟩ := magnitude_onGrid code p
  have hdpos : 0 < unitsPerOne * tenNum p := Nat.mul_pos unitsPerOne_pos (Nat.pow_pos (by decide))
  unfold neighbours
  simp only at hmagnitude hpart ⊢
  generalize units code * tenDen p = n at *
  generalize unitsPerOne * tenNum p = d at *
  have hd : (0 : ℚ) < d := Nat.cast_pos.2 hdpos
  have hten := zpow_ten_pos p
  have hnonneg : (0 : ℚ) ≤ (n % d : Nat) / (d : ℚ) := div_nonneg (Nat.cast_nonneg _) hd.le
  have hlow : (n / d : Nat) * 10 ^ p ≤ magnitude code := by
    rw [hmagnitude]
    exact mul_le_mul_of_nonneg_right (by linarith) hten.le
  have hhigh : magnitude code ≤ (n / d + 1 : Nat) * 10 ^ p := by
    rw [hmagnitude, Nat.cast_add_one]
    exact mul_le_mul_of_nonneg_right (by linarith) hten.le
  have hstep : ((n / d : Nat) * 10 ^ p : ℚ) < (n / d + 1 : Nat) * 10 ^ p :=
    mul_lt_mul_of_pos_right (Nat.cast_lt.2 (Nat.lt_succ_self _)) hten
  split
  · next hhalf =>
    have hhalf : 2 * ((n % d : Nat) / (d : ℚ)) ≤ 1 := by
      rw [← mul_div_assoc, div_le_one hd]
      exact_mod_cast (by omega : 2 * (n % d) ≤ d)
    refine ⟨n / d, n / d + 1, rfl, (abs_sub_le_of_le_middle hstep ?_).1, fun k hk =>
      reads_below_or_above hcode hlow hhigh hk⟩
    rw [hmagnitude, ← add_mul, ← mul_assoc, Nat.cast_add_one]
    exact mul_le_mul_of_nonneg_right (by linarith) hten.le
  · next hhalf =>
    have hhalf : 1 ≤ 2 * ((n % d : Nat) / (d : ℚ)) := by
      rw [← mul_div_assoc, one_le_div hd]
      exact_mod_cast (by omega : d ≤ 2 * (n % d))
    refine ⟨n / d + 1, n / d, rfl, (abs_sub_le_of_middle_le hstep ?_).1, fun k hk =>
      (reads_below_or_above hcode hlow hhigh hk).symm⟩
    rw [hmagnitude, ← add_mul, ← mul_assoc, Nat.cast_add_one]
    exact mul_le_mul_of_nonneg_right (by linarith) hten.le

theorem decimalCode_ne_of_onGrid? (hcode : code ≤ infinityCode) (h : onGrid? tie code p = none)
    (k : Nat) : decimalCode k p ≠ code := by
  obtain ⟨near, far, hneighbours, -, hreads⟩ := exists_neighbours tie hcode p
  rw [onGrid?, hneighbours, Option.map_eq_none_iff, List.find?_eq_none] at h
  intro hk
  rcases hreads k hk with ⟨hnear, -⟩ | ⟨hfar, -⟩
  · exact h near (by simp) (beq_iff_eq.2 hnear)
  · exact h far (by simp) (beq_iff_eq.2 hfar)

/-- What is found on a grid is the nearest of all on it that read back. -/
theorem nearest_of_onGrid? (hcode : code ≤ infinityCode) {decimal : Decimal}
    (h : onGrid? tie code p = some decimal) :
    decimal.exponent = p ∧ ∀ k : Nat, decimalCode k p = code →
      |decimal.value - magnitude code| ≤ |k * 10 ^ p - magnitude code| := by
  obtain ⟨near, far, hneighbours, hnearer, hreads⟩ := exists_neighbours tie hcode p
  rw [onGrid?, hneighbours] at h
  obtain ⟨m, hm, rfl⟩ := Option.map_eq_some_iff.1 h
  refine ⟨rfl, fun k hk => ?_⟩
  change |m * 10 ^ p - magnitude code| ≤ _
  rw [List.find?_cons] at hm
  split at hm
  · obtain rfl := Option.some.inj hm
    exact (hreads k hk).elim And.right fun hfar => hnearer.trans hfar.2
  · next hnear =>
    obtain rfl := List.mem_singleton.1 (List.mem_of_find?_eq_some hm)
    rcases hreads k hk with ⟨hreadsNear, -⟩ | ⟨-, hle⟩
    · simp [hreadsNear] at hnear
    · exact hle

/-! ## The first grid -/

/-- Powers of two and the powers of ten above them: of eight below ten, and where the exponents
are negative, of sixteen above it. -/
theorem two_zpow_le_ten_zpow (y : Int) :
    (2 : ℚ) ^ y ≤ 10 ^ (if 0 ≤ y then y / 3 + 1 else y / 4 + 1) := by
  split_ifs with hy
  · calc (2 : ℚ) ^ y ≤ 2 ^ (3 * (y / 3 + 1)) := zpow_le_zpow_right₀ (by norm_num) (by omega)
      _ = 8 ^ (y / 3 + 1) := by
        rw [zpow_mul]
        norm_num
      _ ≤ 10 ^ (y / 3 + 1) := zpow_le_zpow_left₀ (by omega) (by norm_num) (by norm_num)
  · have hinv : (10 : ℚ) ^ (-(y / 4 + 1)) ≤ 16 ^ (-(y / 4 + 1)) :=
      zpow_le_zpow_left₀ (by omega) (by norm_num) (by norm_num)
    rw [zpow_neg, zpow_neg] at hinv
    calc (2 : ℚ) ^ y ≤ 2 ^ (4 * (y / 4 + 1)) := zpow_le_zpow_right₀ (by norm_num) (by omega)
      _ = 16 ^ (y / 4 + 1) := by
        rw [zpow_mul]
        norm_num
      _ ≤ 10 ^ (y / 4 + 1) := (inv_le_inv₀ (zpow_ten_pos _) (zpow_pos (by norm_num) _)).1 hinv

/-- The power of ten of the first grid is above twice the magnitude. -/
theorem two_mul_magnitude_lt (code : Nat) : 2 * magnitude code < 10 ^ coarsest code := by
  have hlog : (units code : ℚ) < 2 ^ (Nat.log2 (units code) + 1) := by
    exact_mod_cast (Nat.lt_log2_self : units code < 2 ^ (Nat.log2 (units code) + 1))
  have hexponent : (Nat.log2 (units code) : Int) - 1074 + 2 =
      (Nat.log2 (units code) + 1 : Nat) + 1 - (1074 : Nat) := by
    push_cast
    ring
  have hmagnitude : 2 * magnitude code < 2 ^ ((Nat.log2 (units code) : Int) - 1074 + 2) := by
    rw [hexponent, zpow_sub₀ two_ne_zero, zpow_add_one₀ two_ne_zero, zpow_natCast, zpow_natCast,
      magnitude, unitsPerOne_eq, cast_twoPow, ← mul_div_assoc]
    exact div_lt_div_of_pos_right (by linarith) (by positivity)
  exact hmagnitude.trans_le (two_zpow_le_ten_zpow _)

/-- Nothing on the first grid reads back, nor on any above it. -/
theorem decimalCode_coarsest_ne (hzero : code ≠ 0) (hcode : code < infinityCode) (k : Nat)
    (hp : coarsest code ≤ p) : decimalCode k p ≠ code := by
  intro hk
  have hone : 0 < k := by
    refine Nat.pos_of_ne_zero ?_
    rintro rfl
    exact hzero hk.symm
  -- The next magnitude is at most twice as great, so what reads back is below twice the magnitude.
  have hnext := magnitude_succ_le (Nat.one_le_iff_ne_zero.2 hzero) (by decide)
  have hlt : roundedCode (k * 10 ^ p) < code + 1 := by
    rw [← decimalCode_eq_roundedCode, hk]
    exact Nat.lt_succ_self code
  have hmiddle := le_middle_of_roundedCode_lt hlt hcode
  rw [← decimalCode_eq_roundedCode, hk] at hmiddle
  have hpower : (10 : ℚ) ^ coarsest code ≤ k * 10 ^ p :=
    calc (10 : ℚ) ^ coarsest code ≤ 10 ^ p := zpow_le_zpow_right₀ (by norm_num) hp
      _ ≤ k * 10 ^ p := le_mul_of_one_le_left (zpow_ten_pos p).le (Nat.one_le_cast.2 hone)
  have hlow := two_mul_magnitude_lt code
  have hpos := magnitude_nonneg code
  push_cast at hnext
  linarith

/-! ## The search -/

/-- A decimal on the coarsest grid that has one that reads back as a code, and the nearest of those
on it. -/
structure IsCoarsest (code : Nat) (decimal : Decimal) : Prop where
  reads : decimalCode decimal.digits decimal.exponent = code
  exponent_le : ∀ {k : Nat} {p : Int}, decimalCode k p = code → p ≤ decimal.exponent
  nearest : ∀ {k : Nat}, decimalCode k decimal.exponent = code →
    |decimal.value - magnitude code| ≤ |k * 10 ^ decimal.exponent - magnitude code|

/-- On the last grid the search ends at the magnitude itself. -/
theorem value_search_zero (tie : Tie) (code : Nat) (hp : p = -1074) :
    (search tie code 0 p).value = magnitude code := by
  obtain ⟨hmagnitude, -⟩ := magnitude_onGrid code p
  have hwhole : units code * tenDen p % (unitsPerOne * tenNum p) = 0 := by
    rw [tenNum_of_nonpos (by omega), Nat.mul_one, tenDen_eq_mul_unitsPerOne hp, ← Nat.mul_assoc,
      Nat.mul_mod_left]
  rw [hmagnitude, hwhole, Nat.cast_zero, zero_div, add_zero]
  rfl

theorem isCoarsest_search (tie : Tie) (hcode : code ≤ infinityCode) (steps : Nat) (p : Int)
    (hp : p = steps - 1074) (habove : ∀ {k : Nat} {q : Int}, decimalCode k q = code → q ≤ p) :
    IsCoarsest code (search tie code steps p) := by
  induction steps generalizing p with
  | zero =>
    refine ⟨decimalCode_search tie hcode 0 p hp, habove, fun _ => ?_⟩
    rw [value_search_zero tie code (by omega), sub_self, abs_zero]
    exact abs_nonneg _
  | succ steps ih =>
    rw [search]
    split
    · next decimal hdecimal =>
      obtain ⟨rfl, hnearest⟩ := nearest_of_onGrid? hcode hdecimal
      exact ⟨decimalCode_of_onGrid? hdecimal, habove, hnearest _⟩
    · next hnone =>
      refine ih (p - 1) (by omega) fun {k q} hk => ?_
      have hne : q ≠ p := by
        rintro rfl
        exact decimalCode_ne_of_onGrid? hcode hnone k hk
      have hle := habove hk
      omega

theorem isCoarsest_shortest (tie : Tie) (hzero : code ≠ 0) (hcode : code < infinityCode) :
    IsCoarsest code (shortest tie code) := by
  have hle := le_coarsest code
  rw [shortest, if_neg hzero]
  refine isCoarsest_search tie hcode.le _ _ (by omega) fun {k q} hk => ?_
  by_contra hlt
  exact decimalCode_coarsest_ne hzero hcode k (not_le.1 hlt).le hk

/-! ## Digits -/

namespace IsCoarsest

variable {decimal : Decimal} {n k : Nat} {q : Int}

/-- Let a decimal have more than `n` digits. If something reads back that is not above the power of
ten with `n` zeros on its grid, then that power reads back too, and as it has a coarser grid unless
`n` is zero, it has no zeros. -/
theorem power_reads (h : IsCoarsest code decimal) (hn : 10 ^ n ≤ decimal.digits)
    (hk : decimalCode k q = code) (hle : (k * 10 ^ q : ℚ) ≤ 10 ^ n * 10 ^ decimal.exponent) :
    n = 0 ∧ roundedCode (10 ^ decimal.exponent) = code := by
  have hpower : ((10 : ℚ) ^ n * 10 ^ decimal.exponent) ≤ decimal.value :=
    mul_le_mul_of_nonneg_right (by exact_mod_cast hn) (zpow_ten_pos _).le
  have hreads := h.reads
  rw [decimalCode_eq_roundedCode] at hk hreads
  have hrounded := roundedCode_between hle hpower hk hreads
  have hcoarser := decimalCode_mul_zpow 1 n decimal.exponent
  rw [Nat.cast_one, one_mul, hrounded] at hcoarser
  have hexponent := h.exponent_le hcoarser.symm
  obtain rfl : n = 0 := by omega
  rw [pow_zero, one_mul] at hrounded
  exact ⟨rfl, hrounded⟩

/-- What reads back has at least as many digits. -/
theorem le_of_reads (h : IsCoarsest code decimal) (hzero : code ≠ 0) (hn : 10 ^ n ≤ decimal.digits)
    (hk : decimalCode k q = code) : 10 ^ n ≤ k := by
  by_contra hlt
  have hlt := Nat.not_le.1 hlt
  have hle : (k * 10 ^ q : ℚ) ≤ 10 ^ n * 10 ^ decimal.exponent :=
    mul_le_mul (by exact_mod_cast hlt.le) (zpow_le_zpow_right₀ (by norm_num) (h.exponent_le hk))
      (zpow_ten_pos q).le (by positivity)
  obtain ⟨rfl, -⟩ := h.power_reads hn hk hle
  obtain rfl := Nat.lt_one_iff.1 hlt
  exact hzero hk.symm

end IsCoarsest

/-- A code whose rationals reach from `9 * 10 ^ (p - 1)` to `10 ^ p` is small: greater codes are
less than a tenth apart. -/
theorem code_le_of_reads_nine (hcode : code < infinityCode)
    (hnine : roundedCode (9 * 10 ^ (p - 1)) = code) (hten : roundedCode (10 ^ p) = code) :
    code ≤ 10 := by
  by_contra hlt
  have hlt := Nat.not_le.1 hlt
  obtain ⟨before, rfl⟩ : ∃ before, code = before + 1 := ⟨code - 1, by omega⟩
  have hlow : magnitude before + magnitude (roundedCode (9 * 10 ^ (p - 1))) ≤ _ :=
    middle_le_of_lt_roundedCode (by omega)
  have hhigh : _ ≤ magnitude (roundedCode (10 ^ p)) + magnitude (before + 1 + 1) :=
    le_middle_of_roundedCode_lt (by omega) hcode
  rw [hnine] at hlow
  rw [hten, zpow_ten_eq p] at hhigh
  have hbefore : (10 : Nat) * magnitude (before + 1) ≤ _ :=
    magnitude_succ_le (by omega) (by decide)
  have hnext : (10 : Nat) * magnitude (before + 1 + 1) ≤ _ :=
    magnitude_succ_le (by omega) (by decide)
  have hpos := magnitude_lt_magnitude (show 0 < before by omega)
  rw [magnitude_zero] at hpos
  push_cast at hbefore hnext
  linarith

/-- Of the small codes that are written with one digit, none is below the middle between the power
of ten on its grid and nine tenths of it. -/
theorem middle_le_of_small (tie : Tie) (hzero : code ≠ 0) (hsmall : code ≤ 10)
    (hdigits : (shortest tie code).digits < 10) :
    9 * (10 : ℚ) ^ ((shortest tie code).exponent - 1) + 10 ^ (shortest tie code).exponent ≤
      2 * magnitude code := by
  have hall : ∀ t ∈ [Tie.up, .even], ∀ c ∈ List.range' 1 10, (shortest t c).digits < 10 →
      19 * (unitsPerOne * tenNum (shortest t c).exponent) ≤
        20 * (units c * tenDen (shortest t c).exponent) := by
    decide +kernel
  have htie : tie ∈ [Tie.up, .even] := by cases tie <;> decide
  have hunits := hall tie htie code (List.mem_range'_1.2 (by omega)) hdigits
  generalize (shortest tie code).exponent = p at *
  have hten := zpow_ten_pos p
  have hstep : (0 : ℚ) < (unitsPerOne * tenNum p : Nat) :=
    Nat.cast_pos.2 (Nat.mul_pos unitsPerOne_pos (Nat.pow_pos (by decide)))
  have hmagnitude : 19 * (10 : ℚ) ^ p ≤ 20 * magnitude code := by
    refine le_of_mul_le_mul_right ?_ hstep
    rw [mul_assoc 20, magnitude_mul_step, ← mul_assoc, mul_right_comm]
    exact mul_le_mul_of_nonneg_right (by exact_mod_cast hunits) hten.le
  rw [zpow_ten_eq p] at hmagnitude ⊢
  linarith

/-- What reads back below the power of ten on the grid, with one digit on a finer grid, is no nearer
than a shortest decimal of one digit, if the power reads back too. -/
theorem abs_shortest_sub_le_of_le_nine (tie : Tie) (hzero : code ≠ 0) (hcode : code < infinityCode)
    (hdigits : (shortest tie code).digits < 10)
    (hten : roundedCode (10 ^ (shortest tie code).exponent) = code) {r : ℚ}
    (hr : roundedCode r = code) (hle : r ≤ 9 * 10 ^ ((shortest tie code).exponent - 1)) :
    |(shortest tie code).value - magnitude code| ≤ |r - magnitude code| := by
  have hcoarsest := isCoarsest_shortest tie hzero hcode
  have hsmall := middle_le_of_small tie hzero
  generalize shortest tie code = decimal at *
  have hpower := zpow_ten_eq decimal.exponent
  have hpos := zpow_ten_pos (decimal.exponent - 1)
  have hnine := roundedCode_between hle (by linarith) hr hten
  have hmiddle := hsmall (code_le_of_reads_nine hcode hnine hten) hdigits
  have hone : decimalCode 1 decimal.exponent = code := by
    rw [decimalCode_eq_roundedCode, Nat.cast_one, one_mul, hten]
  have hnear := hcoarsest.nearest hone
  rw [Nat.cast_one, one_mul] at hnear
  exact hnear.trans (abs_sub_le_of_middle_le (by linarith) (by linarith)).1

/-- No decimal with as many digits that reads back is nearer than the shortest one. -/
theorem abs_shortest_sub_le (tie : Tie) (hzero : code ≠ 0) (hcode : code < infinityCode)
    {n k : Nat} {q : Int} (hn : 10 ^ n ≤ (shortest tie code).digits)
    (hk : decimalCode k q = code) (hlt : k < 10 ^ (n + 1)) :
    |(shortest tie code).value - magnitude code| ≤ |k * 10 ^ q - magnitude code| := by
  have hcoarsest := isCoarsest_shortest tie hzero hcode
  rcases (hcoarsest.exponent_le hk).lt_or_eq with hq | rfl
  · -- On a finer grid as many digits stay below the power of ten, which then has one digit.
    have hfiner : (10 : ℚ) ^ q ≤ 10 ^ ((shortest tie code).exponent - 1) :=
      zpow_le_zpow_right₀ (by norm_num) (Int.le_sub_one_of_lt hq)
    have hbelow : (k * 10 ^ q : ℚ) ≤ 10 ^ n * 10 ^ (shortest tie code).exponent := by
      rw [zpow_ten_eq (shortest tie code).exponent, ← mul_assoc, ← pow_succ]
      exact mul_le_mul (by exact_mod_cast hlt.le) hfiner (zpow_ten_pos q).le (by positivity)
    obtain ⟨rfl, hten⟩ := hcoarsest.power_reads hn hk hbelow
    have hdigits : (shortest tie code).digits < 10 := by
      by_contra hle
      have hmore := hcoarsest.le_of_reads hzero (n := 1) (Nat.not_lt.1 hle) hk
      omega
    refine abs_shortest_sub_le_of_le_nine tie hzero hcode hdigits hten
      ((decimalCode_eq_roundedCode k q).symm.trans hk) ?_
    exact mul_le_mul (by exact_mod_cast Nat.le_of_lt_succ hlt) hfiner (zpow_ten_pos q).le
      (by norm_num)
  · exact hcoarsest.nearest hk

end Decimal

end Abacus
