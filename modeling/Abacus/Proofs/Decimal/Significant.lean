import Abacus.Proofs.Decimal.Shortest
import Mathlib.Data.List.DropRight

/-!
# Significant digits

The digits of a written decimal without the zeros in front and behind: `Written.significant`. They
count the decimal's value by a power of ten (`Written.exists_scale`), and a printed number has those
of its shortest decimal. `Layout.print_shortest`: no decimal that rounds to a number has fewer of
them than the text of the number, and none with as many is nearer.
-/

namespace Abacus

/-! ## Runs of digits -/

theorem digitValue_lt {c : Char} (hc : c.isDigit = true) : digitValue c < 10 := by
  simp only [Char.isDigit, Bool.and_eq_true, decide_eq_true_eq] at hc
  have hnine : c.toNat ≤ 57 := hc.2
  rw [digitValue]
  omega

theorem digitValue_pos {c : Char} (hc : c.isDigit = true) (hzero : c ≠ '0') : 0 < digitValue c := by
  simp only [Char.isDigit, Bool.and_eq_true, decide_eq_true_eq] at hc
  have hlow : 48 ≤ c.toNat := hc.1
  have hne : c.toNat ≠ 48 := fun h => hzero (Char.toNat_inj.1 h)
  rw [digitValue]
  omega

theorem ofDigits_lt {digits : List Char} (h : ∀ c ∈ digits, c.isDigit = true) :
    ofDigits digits < 10 ^ digits.length := by
  induction digits using List.reverseRecOn with
  | nil => exact Nat.one_pos
  | append_singleton digits c ih =>
    have hdigits := ih fun d hd => h d (List.mem_append_left _ hd)
    have hc := digitValue_lt (h c (List.mem_append_right _ List.mem_cons_self))
    rw [ofDigits_append_singleton, List.length_append, List.length_singleton, pow_succ]
    omega

/-- Digits that start with no zero count a power of ten or more. -/
theorem pow_le_ofDigits {c : Char} (hc : c.isDigit = true) (hzero : c ≠ '0') (rest : List Char) :
    10 ^ rest.length ≤ ofDigits (c :: rest) := by
  have hfirst : 0 < ofDigits [c] := by
    simpa [ofDigits] using digitValue_pos hc hzero
  calc 10 ^ rest.length ≤ ofDigits [c] * 10 ^ rest.length := Nat.le_mul_of_pos_left _ hfirst
    _ ≤ ofDigits ([c] ++ rest) := by
      rw [ofDigits_append]
      exact Nat.le_add_right _ _

/-- Digits that end with no zero count no multiple of ten. -/
theorem ofDigits_mod_ne_zero {c : Char} (hc : c.isDigit = true) (hzero : c ≠ '0')
    (digits : List Char) : ofDigits (digits ++ [c]) % 10 ≠ 0 := by
  have hlt := digitValue_lt hc
  have hpos := digitValue_pos hc hzero
  rw [ofDigits_append_singleton]
  omega

/-! ## Significant digits -/

namespace Written

variable (w : Written)

/-- The digits without zeros in front and behind. -/
def significant : Text :=
  (w.digits.dropWhile (· = '0')).rdropWhile (· = '0')

theorem exists_zeros : ∃ front back,
    w.digits = List.replicate front '0' ++ w.significant ++ List.replicate back '0' := by
  have hfront : ∀ c ∈ w.digits.takeWhile (· = '0'), c = '0' := fun c hc => by
    simpa using List.mem_takeWhile_imp hc
  have hback : ∀ c ∈ (w.digits.dropWhile (· = '0')).rtakeWhile (· = '0'), c = '0' := fun c hc => by
    simpa using List.mem_rtakeWhile_imp hc
  refine ⟨(w.digits.takeWhile (· = '0')).length,
    ((w.digits.dropWhile (· = '0')).rtakeWhile (· = '0')).length, ?_⟩
  rw [← List.eq_replicate_of_mem hfront, ← List.eq_replicate_of_mem hback, significant,
    List.append_assoc, List.rdropWhile_append_rtakeWhile, List.takeWhile_append_dropWhile]

theorem isDigit_of_mem_significant {c : Char} (hc : c ∈ w.significant) : c.isDigit = true :=
  w.isDigit c ((List.dropWhile_suffix _).mem ((List.rdropWhile_prefix _ _).mem hc))

/-- The significant digits count the value by a power of ten, and read back as it does. -/
theorem exists_scale : ∃ q : Int,
    w.magnitude = ofDigits w.significant * 10 ^ q ∧
      Numeral.decimalCode (ofDigits w.significant) q = Binary64.roundedCode w.magnitude := by
  obtain ⟨front, back, hdigits⟩ := w.exists_zeros
  have hmagnitude : w.magnitude = ofDigits w.significant * 10 ^ (w.scale + back) := by
    rw [magnitude, hdigits, ofDigits_append_replicate, ofDigits_replicate_append,
      zpow_add₀ (by norm_num), zpow_natCast]
    push_cast
    ring
  exact ⟨w.scale + back, hmagnitude, by rw [Numeral.decimalCode_eq_roundedCode, hmagnitude]⟩

theorem ofDigits_significant_lt : ofDigits w.significant < 10 ^ w.significant.length :=
  ofDigits_lt fun _ hc => w.isDigit_of_mem_significant hc

/-- Significant digits start with no zero, so all of them count. -/
theorem pow_le_ofDigits_significant (h : w.significant ≠ []) :
    10 ^ (w.significant.length - 1) ≤ ofDigits w.significant := by
  obtain ⟨c, rest, hcons⟩ := List.exists_cons_of_ne_nil h
  have hdigit := w.isDigit_of_mem_significant (hcons ▸ List.mem_cons_self)
  have hfirst : (w.digits.dropWhile (· = '0')).head? = some c := by
    obtain ⟨rest', hprefix⟩ := List.rdropWhile_prefix (· = '0') (w.digits.dropWhile (· = '0'))
    rw [← hprefix]
    change (w.significant ++ rest').head? = some c
    rw [hcons]
    rfl
  have hzero : c ≠ '0' := by
    have hnot := List.head?_dropWhile_not (fun c => decide (c = '0')) w.digits
    rw [hfirst] at hnot
    simpa using hnot
  rw [hcons]
  exact pow_le_ofDigits hdigit hzero rest

theorem ofDigits_significant_mod_ne_zero (h : w.significant ≠ []) :
    ofDigits w.significant % 10 ≠ 0 := by
  have hzero : w.significant.getLast h ≠ '0' := fun hlast =>
    List.rdropWhile_last_not _ _ h (decide_eq_true hlast)
  have hdigit := w.isDigit_of_mem_significant (List.getLast_mem h)
  rw [← List.dropLast_concat_getLast h]
  exact ofDigits_mod_ne_zero hdigit hzero _

end Written

/-! ## Printed numbers -/

namespace Binary64

variable {negative : Bool} {code : Fin infinityCode}

theorem eq_of_ofCode_eq_finite {s : Bool} {n : Nat} (h : ofCode s n = .finite negative code) :
    n = code := by
  unfold ofCode at h
  split at h
  · cases h
    rfl
  · cases h

/-- A decimal that rounds to a number other than zero has its sign and reads back. -/
theorem RoundsTo.reads {w : Written} (h : RoundsTo w.value (.finite negative code))
    (hzero : code.val ≠ 0) : w.isNegative = negative ∧ roundedCode w.magnitude = code := by
  have hsign : (Binary64.finite negative code).isNegative = w.isNegative :=
    h.isNearest.isNegative_eq w.magnitude_nonneg (by simpa [isZero] using hzero)
  have hoperand := (operand?_text_eq_some_iff w _).2 ⟨h.short, h.isNearest, hsign⟩
  obtain ⟨hread, -⟩ := Option.filter_eq_some_iff.1 hoperand
  rw [read?, Numeral.read?_text, Option.map_some, Option.some_inj] at hread
  refine ⟨hsign.symm, ?_⟩
  rw [Written.magnitude, ← Numeral.decimalCode_eq_roundedCode]
  exact eq_of_ofCode_eq_finite hread

/-- The text of a number is a decimal that rounds to the number. -/
theorem roundsTo_of_text {layout : Layout} {x : Binary64} (hfinite : x.isFinite = true)
    {w : Written} (hw : w.text = layout.print x) : RoundsTo w.value x := by
  have hoperand : operand? w.text = some x := by
    rw [hw]
    exact (operand?_print_eq_some_iff layout).2 ⟨rfl, hfinite⟩
  obtain ⟨hshort, hnearest, -⟩ := (operand?_text_eq_some_iff w x).1 hoperand
  exact ⟨hshort, hnearest⟩

/-- The text of a number has the value of its shortest decimal. -/
theorem value_of_text {layout : Layout} {w : Written}
    (hw : w.text = layout.print (.finite negative code)) :
    w.isNegative = negative ∧ w.magnitude = (Decimal.shortest layout.tie code).value := by
  obtain ⟨zeros, hread⟩ := Numeral.read?_print layout negative code
  rw [← hw, Numeral.read?_text, Option.some_inj] at hread
  injection hread with hsign hdigits hscale
  refine ⟨hsign, ?_⟩
  rw [Written.magnitude, hdigits, hscale, Decimal.value, zpow_sub₀ (by norm_num), zpow_natCast]
  push_cast
  field_simp

theorem abs_value_sub {w : Written} (hsign : w.isNegative = negative) :
    |w.value - value (.finite negative code)| = |w.magnitude - magnitude code| := by
  rw [Written.value, value, hsign, abs_signed_sub, if_pos rfl]

end Binary64

namespace Layout

open Binary64

/-- The significant digits of the text are the digits of the shortest decimal. -/
theorem ofDigits_significant_eq {layout : Layout} {negative : Bool} {code : Fin infinityCode}
    (hzero : code.val ≠ 0) {w : Written} (hw : w.text = layout.print (.finite negative code)) :
    w.significant ≠ [] ∧
      ofDigits w.significant = (Decimal.shortest layout.tie code).digits := by
  obtain ⟨-, hvalue⟩ := value_of_text hw
  have hcoarsest := Decimal.isCoarsest_shortest layout.tie hzero code.isLt
  generalize Decimal.shortest layout.tie code = decimal at *
  obtain ⟨q, hq, hreads⟩ := w.exists_scale
  rw [hvalue, Decimal.value, ← Numeral.decimalCode_eq_roundedCode, hcoarsest.reads] at hreads
  have hne : w.significant ≠ [] := by
    intro hnil
    rw [hnil] at hreads
    exact hzero hreads.symm
  refine ⟨hne, ?_⟩
  obtain ⟨k, hk⟩ := Int.le.dest (hcoarsest.exponent_le hreads)
  have hdigits : ofDigits w.significant = decimal.digits * 10 ^ k := by
    rw [hvalue, Decimal.value, ← hk, zpow_add₀ (by norm_num), zpow_natCast, mul_left_comm,
      mul_comm (10 ^ q)] at hq
    exact_mod_cast (mul_right_cancel₀ (Decimal.zpow_ten_pos q).ne' hq).symm
  -- A coarser grid would leave a zero at the end.
  cases k with
  | zero => rw [hdigits, pow_zero, Nat.mul_one]
  | succ k =>
    refine absurd ?_ (w.ofDigits_significant_mod_ne_zero hne)
    rw [hdigits, pow_succ, ← Nat.mul_assoc, Nat.mul_mod_left]

/-- Printed numbers are shortest and nearest, under every layout: those of results and listings, of
fields, and of expressions. The text of a finite number other than zero is a decimal, and it rounds
to the number.
1. No decimal with fewer significant digits rounds to the number.
2. No decimal with as many significant digits that rounds to the number is nearer to it. -/
theorem print_shortest (layout : Layout) {x : Binary64} (hfinite : x.isFinite = true)
    (hzero : x.isZero = false) :
    (∃ w : Written, w.text = layout.print x) ∧
      ∀ w : Written, w.text = layout.print x → RoundsTo w.value x ∧
        (∀ v : Written, RoundsTo v.value x → w.significant.length ≤ v.significant.length) ∧
        ∀ v : Written, RoundsTo v.value x → v.significant.length = w.significant.length →
          |w.value - x.value| ≤ |v.value - x.value| := by
  match x with
  | .finite negative code =>
    have hcode : code.val ≠ 0 := by simpa [isZero] using hzero
    obtain ⟨zeros, hnumeral⟩ := Numeral.read?_print layout negative code
    refine ⟨Numeral.exists_written hnumeral, fun w hw => ?_⟩
    obtain ⟨hsign, hvalue⟩ := value_of_text hw
    obtain ⟨hne, hdigits⟩ := ofDigits_significant_eq hcode hw
    have hlength := List.length_pos_of_ne_nil hne
    have hpow := w.pow_le_ofDigits_significant hne
    rw [hdigits] at hpow
    refine ⟨roundsTo_of_text hfinite hw, fun v hv => ?_, fun v hv hsame => ?_⟩
    · obtain ⟨-, hrounded⟩ := hv.reads hcode
      obtain ⟨q, -, hreads⟩ := v.exists_scale
      have hle := (Decimal.isCoarsest_shortest layout.tie hcode code.isLt).le_of_reads hcode hpow
        (hreads.trans hrounded)
      have hlt := hle.trans_lt v.ofDigits_significant_lt
      have hexponent := (Nat.pow_lt_pow_iff_right (by norm_num)).1 hlt
      omega
    · obtain ⟨hsign', hrounded⟩ := hv.reads hcode
      obtain ⟨q, hq, hreads⟩ := v.exists_scale
      have hlt := v.ofDigits_significant_lt
      rw [hsame, ← Nat.sub_add_cancel hlength] at hlt
      have hnear := Decimal.abs_shortest_sub_le layout.tie hcode code.isLt hpow
        (hreads.trans hrounded) hlt
      rw [abs_value_sub hsign, abs_value_sub hsign', hvalue, hq]
      exact hnear

/-- The sum of the numbers nearest to `0.1` and to `0.2` needs 17 digits. -/
theorem print_shortest_sum :
    let x : Binary64 := .finite false 0x3FD3333333333334
    x.isFinite = true ∧ x.isZero = false ∧
      Layout.result.print x = "0.30000000000000004".toList ∧
        ∀ v : Written, RoundsTo v.value x → 17 ≤ v.significant.length := by
  intro x
  let w : Written :=
    ⟨.absent, "0".toList, some "30000000000000004".toList, none, by decide,
      List.all_eq_true.1 (by decide)⟩
  have htext : Layout.result.print x = w.text := by decide +kernel
  obtain ⟨-, hshortest⟩ := print_shortest .result (x := x) rfl rfl
  exact ⟨rfl, rfl, htext, (hshortest w htext.symm).2.1⟩

end Layout

end Abacus
