import Abacus.Proofs.Decimal.Written

/-!
# Operands

An operand is read exactly. `Binary64.operand?_text_eq_some_iff`: a written decimal is taken for
the number nearest to its value, with the sign that is written, unless its value overflows; and
nothing but written decimals is taken (`Binary64.exists_written_of_operand?`).
`Binary64.operand?_exact` says what follows for the reading of all tokens.
-/

namespace Abacus

theorem zpow_mul_tenDen (p : Int) : (10 : ℚ) ^ p * tenDen p = tenNum p := by
  have hsplit : p + (-p).toNat = p.toNat := by omega
  show (10 : ℚ) ^ p * (10 ^ (-p).toNat : Nat) = (10 ^ p.toNat : Nat)
  push_cast
  rw [← zpow_natCast, ← zpow_natCast, ← zpow_add₀ (by norm_num), hsplit]

namespace Binary64

theorem isFinite_ofCode (negative : Bool) (code : Nat) :
    (ofCode negative code).isFinite = true ↔ code < infinityCode := by
  unfold ofCode
  split
  · next h => exact iff_of_true rfl h
  · next h => exact iff_of_false Bool.false_ne_true h

theorem isNegative_ofCode (negative : Bool) (code : Nat) :
    (ofCode negative code).isNegative = negative := by
  unfold ofCode
  split
  · rfl
  · rfl

/-! ## Written decimals -/

section Text

variable (w : Written)

/-- The value of a decimal as a quotient of units. -/
theorem magnitude_mul :
    w.magnitude * (tenDen w.scale * unitsPerOne) =
      (ofDigits w.digits * tenNum w.scale * unitsPerOne : Nat) := by
  push_cast
  rw [← zpow_mul_tenDen, Written.magnitude]
  ring

theorem read?_text : read? w.text = some (nearest w.isNegative
    (ofDigits w.digits * tenNum w.scale * unitsPerOne) (tenDen w.scale)) := by
  rw [read?, Numeral.read?_text, Option.map_some, Numeral.toBinary64,
    Numeral.decimalCode_eq_nearestCode]
  rfl

theorem operand?_text_eq_some_iff (x : Binary64) :
    operand? w.text = some x ↔
      |w.value| < overflow ∧ x.IsNearest w.value ∧ x.isNegative = w.isNegative := by
  have hden := tenDen_pos w.scale
  have hvalue := magnitude_mul w
  have hrounded := isNearest_nearest hden hvalue w.magnitude_nonneg w.isNegative
  rw [operand?, read?_text, Option.filter_eq_some_iff, Option.some_inj, w.abs_value,
    ← nearestCode_lt_infinityCode_iff hden hvalue]
  constructor
  · rintro ⟨rfl, hfinite⟩
    have hlt := (isFinite_ofCode _ _).1 hfinite
    exact ⟨hlt, hrounded hlt, isNegative_ofCode _ _⟩
  · rintro ⟨hlt, hnearest, hsign⟩
    exact ⟨(hrounded hlt).unique hnearest ((isNegative_ofCode _ _).trans hsign.symm),
      hnearest.isFinite⟩

theorem isSome_operand?_text : (operand? w.text).isSome ↔ |w.value| < overflow := by
  have hden := tenDen_pos w.scale
  have hvalue := magnitude_mul w
  rw [operand?, read?_text, Option.isSome_filter, Option.any_some, nearest, isFinite_ofCode,
    w.abs_value, nearestCode_lt_infinityCode_iff hden hvalue]

end Text

/-! ## Other tokens -/

/-- What is taken as an operand is a written decimal. -/
theorem exists_written_of_operand? {token : Text} {x : Binary64} (h : operand? token = some x) :
    ∃ w : Written, w.text = token := by
  obtain ⟨hread, hfinite⟩ := Option.filter_eq_some_iff.1 h
  obtain ⟨numeral, hnumeral, rfl⟩ := Option.map_eq_some_iff.1 hread
  match numeral with
  | .decimal negative digits exponent => exact Numeral.exists_written hnumeral

/-- The names of what is not finite are read, but not taken as operands. -/
theorem operand?_name (sign : Sign) {word : Text}
    (h : word.map Char.toLower ∈ ["inf".toList, "infinity".toList, "nan".toList]) :
    operand? (sign.text ++ word) = none := by
  have hsplit : Numeral.splitSign (sign.text ++ word) = (sign.isMinus, word) := by
    cases word with
    | nil => simp at h
    | cons c rest =>
      refine Numeral.splitSign_text sign ⟨?_, ?_⟩
      · rintro rfl
        simp at h
      · rintro rfl
        simp at h
  have hread : Numeral.read? (sign.text ++ word) = some (.infinity sign.isMinus) ∨
      Numeral.read? (sign.text ++ word) = some .nan := by
    simp only [Numeral.read?, hsplit]
    simp only [List.mem_cons, List.not_mem_nil, or_false] at h
    rcases h with hinf | hinfinity | hnan
    · exact .inl (if_pos (.inl hinf))
    · exact .inl (if_pos (.inr hinfinity))
    · rw [hnan]
      exact .inr rfl
  rw [operand?, read?]
  rcases hread with hread | hread
  · rw [hread]
    rfl
  · rw [hread]
    rfl

/-! ## Reading -/

/-- A token is a decimal short of the overflow. -/
def IsOperand (token : Text) : Prop :=
  ∃ w : Written, w.text = token ∧ |w.value| < overflow

/-- A token is a decimal short of the overflow, and a number is nearest to it with its sign. -/
def Denotes (token : Text) (x : Binary64) : Prop :=
  ∃ w : Written, w.text = token ∧ |w.value| < overflow ∧ x.IsNearest w.value ∧
    x.isNegative = w.isNegative

theorem operand?_eq_some_iff {token : Text} {x : Binary64} :
    operand? token = some x ↔ Denotes token x := by
  constructor
  · intro h
    obtain ⟨w, rfl⟩ := exists_written_of_operand? h
    exact ⟨w, rfl, (operand?_text_eq_some_iff w x).1 h⟩
  · rintro ⟨w, rfl, h⟩
    exact (operand?_text_eq_some_iff w x).2 h

theorem isSome_operand?_iff {token : Text} : (operand? token).isSome ↔ IsOperand token := by
  constructor
  · intro h
    obtain ⟨x, hx⟩ := Option.isSome_iff_exists.1 h
    obtain ⟨w, hw⟩ := exists_written_of_operand? hx
    exact ⟨w, hw, (isSome_operand?_text w).1 (hw ▸ h)⟩
  · rintro ⟨w, rfl, h⟩
    exact (isSome_operand?_text w).2 h

theorem isOperand_iff {token : Text} : IsOperand token ↔ ∃ x, operand? token = some x :=
  isSome_operand?_iff.symm.trans Option.isSome_iff_exists

instance : DecidablePred IsOperand := fun _ =>
  decidable_of_iff _ isSome_operand?_iff

/-- Reading is exact, for any number of digits and any exponent:
1. a written decimal is taken if and only if its value is short of the overflow;
2. what it is taken for is the number nearest to its value, a tie going to the even significand,
   with the sign that is written, also before a zero;
3. no other token is taken;
4. in particular none that names an infinity or a NaN;
5. two decimals of one sign and one value are read alike;
6. a decimal of a greater value is not read as a smaller number. -/
theorem operand?_exact :
    (∀ w : Written, (operand? w.text).isSome ↔ |w.value| < overflow) ∧
      (∀ (w : Written) (x : Binary64), operand? w.text = some x ↔
        |w.value| < overflow ∧ x.IsNearest w.value ∧ x.isNegative = w.isNegative) ∧
      (∀ token, (∀ w : Written, w.text ≠ token) → operand? token = none) ∧
      (∀ (sign : Sign) (word : Text),
        word.map Char.toLower ∈ ["inf".toList, "infinity".toList, "nan".toList] →
          operand? (sign.text ++ word) = none) ∧
      (∀ v w : Written, v.isNegative = w.isNegative → v.value = w.value →
        operand? v.text = operand? w.text) ∧
      ∀ (v w : Written) (x y : Binary64), operand? v.text = some x → operand? w.text = some y →
        v.value ≤ w.value → x.value ≤ y.value := by
  refine ⟨isSome_operand?_text, operand?_text_eq_some_iff, fun token h => ?_,
    fun sign word h => operand?_name sign h, fun v w hsign hvalue => ?_,
    fun v w x y hx hy hle => ?_⟩
  · refine Option.eq_none_iff_forall_ne_some.2 fun x hx => ?_
    obtain ⟨w, hw⟩ := exists_written_of_operand? hx
    exact h w hw
  · ext x
    rw [operand?_text_eq_some_iff, operand?_text_eq_some_iff, hsign, hvalue]
  · obtain ⟨-, hnear, hsign⟩ := (operand?_text_eq_some_iff v x).1 hx
    obtain ⟨-, hnear', hsign'⟩ := (operand?_text_eq_some_iff w y).1 hy
    rcases hle.lt_or_eq with hlt | heq
    · exact hnear.value_le hnear' hlt
    · rw [heq] at hnear
      by_cases hsame : v.isNegative = w.isNegative
      · rw [hnear.unique hnear' (by rw [hsign, hsign', hsame])]
      · -- Only zeros have one value with both signs.
        rw [Written.value_eq_zero hsame heq] at hnear hnear'
        rw [hnear.value_eq_zero, hnear'.value_eq_zero]

/-- A negative number that underflows is a zero with its sign. -/
example : operand? "-1e-400".toList = some (zero true) := by
  decide +kernel

/-- A tie between two numbers, of which the lower is even. -/
example : operand? "9007199254740993".toList = operand? "9007199254740992".toList := by
  decide +kernel

end Binary64

end Abacus
