import Abacus.Proofs.Binary64.Nearest
import Abacus.Proofs.Decimal.Layout

/-!
# Written decimals

A decimal by its parts, with the text that they make up and the exact value that they stand for.
The reader of numerals gives the value of every such text (`Numeral.read?_text`) and reads no other
text as a decimal: `Numeral.exists_written`.
-/

namespace Abacus

/-! ## Parts -/

/-- A sign in front of digits, if there is one. -/
inductive Sign where
  | absent
  | plus
  | minus

namespace Sign

def text : Sign → Text
  | absent => []
  | plus => ['+']
  | minus => ['-']

def isMinus : Sign → Bool
  | minus => true
  | _ => false

end Sign

/-- An exponent that ends a decimal: a mark, a sign and at least one digit. -/
structure WrittenExponent where
  mark : Char
  sign : Sign
  digits : Text
  isMark : mark = 'e' ∨ mark = 'E'
  nonempty : digits ≠ []
  isDigit : ∀ c ∈ digits, c.isDigit = true

namespace WrittenExponent

def text (e : WrittenExponent) : Text :=
  e.mark :: (e.sign.text ++ e.digits)

def value (e : WrittenExponent) : Int :=
  if e.sign.isMinus then -(ofDigits e.digits : Int) else ofDigits e.digits

end WrittenExponent

/-- A decimal as it is written: a sign, digits with at most one point and at least one digit, and
an exponent or none. The fraction is what is behind the point, if there is a point. -/
structure Written where
  sign : Sign
  whole : Text
  fraction : Option Text
  exponent : Option WrittenExponent
  nonempty : whole ++ fraction.getD [] ≠ []
  isDigit : ∀ c ∈ whole ++ fraction.getD [], c.isDigit = true

namespace Written

variable (w : Written)

/-- The digits before and behind the point. -/
def digits : Text :=
  w.whole ++ w.fraction.getD []

/-- The text of the exponent. -/
def tail : Text :=
  w.exponent.elim [] WrittenExponent.text

/-- The text without its sign. -/
def body : Text :=
  w.whole ++ (w.fraction.elim [] ('.' :: ·) ++ w.tail)

def text : Text :=
  w.sign.text ++ w.body

/-- The power of ten that the digits count. -/
def scale : Int :=
  w.exponent.elim 0 WrittenExponent.value - (w.fraction.getD []).length

def isNegative : Bool :=
  w.sign.isMinus

/-- The exact value without the sign. -/
def magnitude : ℚ :=
  ofDigits w.digits * 10 ^ w.scale

/-- The exact value. -/
def value : ℚ :=
  signed w.isNegative w.magnitude

theorem magnitude_nonneg : 0 ≤ w.magnitude :=
  mul_nonneg (Nat.cast_nonneg _) (zpow_nonneg (by norm_num) _)

theorem abs_value : |w.value| = w.magnitude := by
  rw [value, abs_signed, abs_of_nonneg w.magnitude_nonneg]

/-- Two decimals of different signs have one value only where it is zero. -/
theorem value_eq_zero {v w : Written} (hsign : v.isNegative ≠ w.isNegative)
    (h : v.value = w.value) : w.value = 0 := by
  have hv := v.magnitude_nonneg
  have hw := w.magnitude_nonneg
  unfold value signed at *
  split at h
  · next hneg =>
    rw [if_neg fun hneg' => hsign (hneg.trans hneg'.symm)] at *
    linarith
  · next hpos =>
    rw [if_pos (by simpa [hpos] using hsign.symm)] at *
    linarith

end Written

namespace Numeral

/-! ## What is written is read -/

theorem splitSign_text (sign : Sign) {c : Char} {rest : List Char} (hc : c ≠ '-' ∧ c ≠ '+') :
    splitSign (sign.text ++ c :: rest) = (sign.isMinus, c :: rest) := by
  cases sign with
  | absent =>
    change splitSign (c :: rest) = (false, c :: rest)
    unfold splitSign
    split
    · next h => exact absurd (List.cons.inj h).1 hc.1
    · next h => exact absurd (List.cons.inj h).1 hc.2
    · rfl
  | plus => rfl
  | minus => rfl

theorem ne_sign_of_isDigit {c : Char} (hc : c.isDigit = true ∨ c = '.') : c ≠ '-' ∧ c ≠ '+' := by
  constructor
  · rintro rfl
    revert hc
    decide
  · rintro rfl
    revert hc
    decide

theorem exponent?_text (e : WrittenExponent) : exponent? e.text = some e.value := by
  have hall : e.digits.all Char.isDigit = true := List.all_eq_true.2 e.isDigit
  have hsplit : splitSign (e.sign.text ++ e.digits) = (e.sign.isMinus, e.digits) := by
    obtain ⟨c, rest, hdigits⟩ := List.exists_cons_of_ne_nil e.nonempty
    have hc := e.isDigit c (hdigits ▸ List.mem_cons_self)
    rw [hdigits, splitSign_text e.sign (ne_sign_of_isDigit (.inl hc))]
  rw [WrittenExponent.text, exponent?, hsplit]
  exact if_pos ⟨e.isMark, e.nonempty, hall⟩

theorem exponent?_tail (w : Written) :
    exponent? w.tail = some (w.exponent.elim 0 WrittenExponent.value) := by
  unfold Written.tail
  cases w.exponent with
  | none => rfl
  | some e => exact exponent?_text e

/-- An exponent starts with neither a digit nor a point. -/
theorem endsDigits_tail (w : Written) : EndsDigits w.tail ∧ w.tail.head? ≠ some '.' := by
  unfold Written.tail
  cases w.exponent with
  | none => exact ⟨endsDigits_nil, by simp⟩
  | some e =>
    rcases e.isMark with h | h
    · simp [EndsDigits, WrittenExponent.text, h]
    · simp [EndsDigits, WrittenExponent.text, h]

theorem unsigned?_body (negative : Bool) (w : Written) :
    unsigned? negative w.body = some (.decimal negative (ofDigits w.digits) w.scale) := by
  obtain ⟨hends, hpoint⟩ := endsDigits_tail w
  have htail := exponent?_tail w
  obtain ⟨sign, whole, fraction, exponent, nonempty, isDigit⟩ := w
  have hwhole : ∀ c ∈ whole, c.isDigit = true := fun c hc => isDigit c (List.mem_append_left _ hc)
  cases fraction with
  | none =>
    have hne : whole ≠ [] := by simpa using nonempty
    have hread := unsigned?_whole negative hne hwhole hends hpoint
    rw [htail] at hread
    simpa [Written.body, Written.digits, Written.scale] using hread
  | some fraction =>
    have hne : whole ≠ [] ∨ fraction ≠ [] := by simpa [or_iff_not_imp_left] using nonempty
    have hfraction : ∀ c ∈ fraction, c.isDigit = true := fun c hc =>
      isDigit c (List.mem_append_right _ hc)
    have hread := unsigned?_point negative hne hwhole hfraction hends
    rw [htail] at hread
    exact hread

theorem exists_body_eq_cons (w : Written) :
    ∃ c rest, w.body = c :: rest ∧ (c.isDigit = true ∨ c = '.') := by
  obtain ⟨sign, whole, fraction, exponent, nonempty, isDigit⟩ := w
  cases whole with
  | cons c whole =>
    exact ⟨c, _, rfl, .inl (isDigit c (List.mem_append_left _ List.mem_cons_self))⟩
  | nil =>
    cases fraction with
    | none => exact absurd rfl nonempty
    | some fraction => exact ⟨'.', _, rfl, .inr rfl⟩

/-- A written decimal is read as what it says. -/
theorem read?_text (w : Written) :
    read? w.text = some (.decimal w.isNegative (ofDigits w.digits) w.scale) := by
  obtain ⟨c, rest, hbody, hc⟩ := exists_body_eq_cons w
  have hsplit : splitSign w.text = (w.isNegative, c :: rest) := by
    rw [Written.text, hbody, splitSign_text w.sign (ne_sign_of_isDigit hc), Written.isNegative]
  rw [read?_of_splitSign hsplit hc, ← hbody, unsigned?_body]

/-! ## What is read is written -/

theorem exists_sign (rest : List Char) : ∃ sign : Sign, rest = sign.text ++ (splitSign rest).2 := by
  unfold splitSign
  split
  · exact ⟨.minus, rfl⟩
  · exact ⟨.plus, rfl⟩
  · exact ⟨.absent, rfl⟩

theorem exists_exponent {tail : List Char} {e : Int} (h : exponent? tail = some e) :
    ∃ exponent : Option WrittenExponent, tail = exponent.elim [] WrittenExponent.text := by
  cases tail with
  | nil => exact ⟨none, rfl⟩
  | cons mark rest =>
    obtain ⟨sign, hrest⟩ := exists_sign rest
    simp only [exponent?] at h
    split at h
    · next hparts =>
      obtain ⟨hmark, hne, hall⟩ := hparts
      refine ⟨some ⟨mark, sign, (splitSign rest).2, hmark, hne, List.all_eq_true.1 hall⟩, ?_⟩
      rw [Option.elim_some, WrittenExponent.text, ← hrest]
    · cases h

theorem exists_fraction (rest : List Char) :
    ∃ fraction : Option (List Char), (splitFraction rest).1 = fraction.getD [] ∧
      rest = fraction.elim [] ('.' :: ·) ++ (splitFraction rest).2 ∧
      ∀ c ∈ fraction.getD [], c.isDigit = true := by
  unfold splitFraction
  split
  · next rest =>
    rw [List.span_eq_takeWhile_dropWhile]
    refine ⟨some (rest.takeWhile Char.isDigit), rfl, ?_, ?_⟩
    · exact congrArg _ List.takeWhile_append_dropWhile.symm
    · exact List.all_eq_true.1 List.all_takeWhile
  · exact ⟨none, rfl, rfl, by simp⟩

theorem exists_body {negative : Bool} {body : List Char} {numeral : Numeral}
    (h : unsigned? negative body = some numeral) (sign : Sign) :
    ∃ w : Written, w.sign = sign ∧ w.body = body := by
  rw [unsigned?, List.span_eq_takeWhile_dropWhile] at h
  obtain ⟨fraction, hfraction, hrest, hdigits⟩ := exists_fraction (body.dropWhile Char.isDigit)
  simp only at h
  split at h
  · cases h
  next hne =>
  obtain ⟨e, he, -⟩ := Option.map_eq_some_iff.1 h
  obtain ⟨exponent, hexponent⟩ := exists_exponent he
  rw [hfraction, ← List.append_eq_nil_iff] at hne
  refine ⟨⟨sign, body.takeWhile Char.isDigit, fraction, exponent, hne, fun c hc => ?_⟩, rfl, ?_⟩
  · rcases List.mem_append.1 hc with hc | hc
    · exact List.all_eq_true.1 List.all_takeWhile c hc
    · exact hdigits c hc
  · rw [Written.body, Written.tail, ← hexponent, ← hrest, List.takeWhile_append_dropWhile]

/-- What is read as a decimal is a written one. -/
theorem exists_written {token : Text} {negative : Bool} {digits : Nat} {exponent : Int}
    (h : read? token = some (.decimal negative digits exponent)) :
    ∃ w : Written, w.text = token := by
  obtain ⟨sign, htoken⟩ := exists_sign token
  simp only [read?] at h
  split at h
  · cases h
  split at h
  · cases h
  · obtain ⟨w, rfl, hbody⟩ := exists_body h sign
    exact ⟨w, by rw [Written.text, hbody, ← htoken]⟩

end Numeral

end Abacus
