import Abacus.Decimal.Layout
import Abacus.Proofs.Decimal.Numeral
import Mathlib.Data.List.Induction
import Mathlib.Data.List.TakeDrop

/-!
# Printed numbers read back

Every layout writes numerals. `Layout.readsAs_magnitude`: what is written for a decimal reads as
that decimal, whether it is written positionally or with an exponent.
`Binary64.read?_print`: the text of a number reads back as that number under every layout, with
its sign also where it is a zero. `Layout.isNumberChar_of_mem_print` lists the characters that
printed numbers are made of, and `Layout.mem_print_plain` those of numbers in expressions.
-/

namespace Abacus

/-! ## Runs of digits -/

theorem ofDigits_append (first second : List Char) :
    ofDigits (first ++ second) = ofDigits first * 10 ^ second.length + ofDigits second := by
  induction second using List.reverseRecOn with
  | nil => simp [ofDigits]
  | append_singleton second c ih =>
    rw [← List.append_assoc, ofDigits_append_singleton, ofDigits_append_singleton, ih,
      List.length_append, List.length_singleton, pow_succ]
    ring

theorem ofDigits_replicate (n : Nat) : ofDigits (List.replicate n '0') = 0 := by
  induction n with
  | zero => rfl
  | succ n ih =>
    rw [List.replicate_succ', ofDigits_append_singleton, ih]
    rfl

/-- Zeros in front change no value. -/
theorem ofDigits_replicate_append (n : Nat) (digits : List Char) :
    ofDigits (List.replicate n '0' ++ digits) = ofDigits digits := by
  rw [ofDigits_append, ofDigits_replicate, Nat.zero_mul, Nat.zero_add]

/-- Zeros behind multiply by powers of ten. -/
theorem ofDigits_append_replicate (digits : List Char) (n : Nat) :
    ofDigits (digits ++ List.replicate n '0') = ofDigits digits * 10 ^ n := by
  rw [ofDigits_append, ofDigits_replicate, List.length_replicate, Nat.add_zero]

/-- Nothing, or something that starts with no digit. -/
def EndsDigits (rest : List Char) : Prop :=
  ∀ c ∈ rest.head?, c.isDigit = false

theorem endsDigits_nil : EndsDigits [] := by
  simp [EndsDigits]

theorem span_isDigit {digits rest : List Char} (hdigits : ∀ c ∈ digits, c.isDigit = true)
    (hrest : EndsDigits rest) : (digits ++ rest).span Char.isDigit = (digits, rest) := by
  have hstop : rest.takeWhile Char.isDigit = [] ∧ rest.dropWhile Char.isDigit = rest := by
    cases rest with
    | nil => exact ⟨rfl, rfl⟩
    | cons c rest =>
      have hc : c.isDigit = false := hrest c rfl
      simp [hc]
  rw [List.span_eq_takeWhile_dropWhile, List.takeWhile_append_of_pos hdigits,
    List.dropWhile_append_of_pos hdigits, hstop.1, hstop.2, List.append_nil]

/-! ## Parts of numerals -/

namespace Numeral

/-- Digits, a point and digits read as the number that all of them write. -/
theorem unsigned?_point (negative : Bool) {whole fraction tail : List Char}
    (hne : whole ≠ [] ∨ fraction ≠ []) (hwhole : ∀ c ∈ whole, c.isDigit = true)
    (hfraction : ∀ c ∈ fraction, c.isDigit = true) (htail : EndsDigits tail) :
    unsigned? negative (whole ++ '.' :: (fraction ++ tail)) = (exponent? tail).map fun e =>
      .decimal negative (ofDigits (whole ++ fraction)) (e - fraction.length) := by
  have hpoint : EndsDigits ('.' :: (fraction ++ tail)) := by simp [EndsDigits]
  have hspan := span_isDigit hwhole hpoint
  have hsplit : splitFraction ('.' :: (fraction ++ tail)) = (fraction, tail) :=
    span_isDigit hfraction htail
  simp only [unsigned?, hspan, hsplit, if_neg (not_and_or.2 hne)]

/-- Digits without a point read as the number that they write. -/
theorem unsigned?_whole (negative : Bool) {whole tail : List Char} (hne : whole ≠ [])
    (hwhole : ∀ c ∈ whole, c.isDigit = true) (htail : EndsDigits tail)
    (hpoint : tail.head? ≠ some '.') :
    unsigned? negative (whole ++ tail) = (exponent? tail).map fun e =>
      .decimal negative (ofDigits whole) e := by
  have hspan := span_isDigit hwhole htail
  have hsplit : splitFraction tail = ([], tail) := by
    unfold splitFraction
    split
    · simp at hpoint
    · rfl
  simp only [unsigned?, hspan, hsplit, hne, false_and, if_false, List.append_nil,
    List.length_nil, Nat.cast_zero, sub_zero]

theorem splitSign_of_isDigit {c : Char} {rest : List Char} (hc : c.isDigit = true) :
    splitSign (c :: rest) = (false, c :: rest) := by
  unfold splitSign
  split
  · next h =>
    rw [(List.cons.inj h).1] at hc
    cases hc
  · next h =>
    rw [(List.cons.inj h).1] at hc
    cases hc
  · rfl

theorem splitSign_sign (negative : Bool) {c : Char} {rest : List Char} (hc : c.isDigit = true) :
    splitSign (Layout.sign negative ++ c :: rest) = (negative, c :: rest) := by
  cases negative with
  | false => exact splitSign_of_isDigit hc
  | true => rfl

theorem toLower_of_isDigit {c : Char} (hc : c.isDigit = true) : c.toLower = c := by
  simp only [Char.isDigit, Bool.and_eq_true, decide_eq_true_eq] at hc
  unfold Char.toLower
  split
  · next h =>
    have hle := UInt32.le_trans h.1 hc.2
    exact absurd hle (by decide)
  · rfl

/-- What starts with a digit or a point, behind a sign or none, is no word. -/
theorem read?_of_splitSign {text : Text} {negative : Bool} {c : Char} {rest : List Char}
    (hsplit : splitSign text = (negative, c :: rest)) (hc : c.isDigit = true ∨ c = '.') :
    read? text = unsigned? negative (c :: rest) := by
  have hlower : c.toLower = c := by
    rcases hc with hc | rfl
    · exact toLower_of_isDigit hc
    · rfl
  have hword : ∀ d word, (c :: rest).map Char.toLower = d :: word → d.isDigit = true ∨ d = '.' := by
    intro d word h
    rw [List.map_cons, hlower] at h
    rwa [← (List.cons.inj h).1]
  rw [read?, hsplit]
  simp only
  rw [if_neg (by rintro (h | h) <;> exact absurd (hword 'i' _ h) (by decide)),
    if_neg (by intro h; exact absurd (hword 'n' _ h) (by decide))]

theorem toDigits_eq_cons (n : Nat) : ∃ c rest, toDigits n = c :: rest ∧ c.isDigit = true := by
  obtain ⟨c, rest, h⟩ := List.exists_cons_of_ne_nil (toDigits_ne_nil n)
  exact ⟨c, rest, h, isDigit_of_mem_toDigits (h ▸ List.mem_cons_self)⟩

/-- A written exponent is read back. -/
theorem exponent?_integer (i : Int) : exponent? ('e' :: Layout.integer i) = some i := by
  have hall : (toDigits i.natAbs).all Char.isDigit = true :=
    List.all_eq_true.2 fun c hc => isDigit_of_mem_toDigits hc
  have hne := toDigits_ne_nil i.natAbs
  have hvalue := ofDigits_toDigits i.natAbs
  rw [exponent?, Layout.integer]
  split_ifs with hneg
  · simp only [splitSign, hall, hne, hvalue, if_true, true_or, ne_eq, not_false_eq_true,
      and_self, Option.some.injEq]
    omega
  · obtain ⟨c, rest, hdigits, hc⟩ := toDigits_eq_cons i.natAbs
    have hsplit : splitSign (toDigits i.natAbs) = (false, toDigits i.natAbs) := by
      rw [hdigits]
      exact splitSign_of_isDigit hc
    simp only [hsplit, hall, hne, hvalue, true_or, ne_eq, not_false_eq_true, and_self, if_true,
      Bool.false_eq_true, if_false, Option.some.injEq]
    omega

end Numeral

/-! ## Layouts -/

namespace Layout

/-- A text starts with a digit and reads as some digits and exponent, but for zeros that it has
behind the digits and that the exponent takes off again. -/
structure ReadsAs (text : List Char) (digits : Nat) (exponent : Int) : Prop where
  starts : ∃ c rest, text = c :: rest ∧ c.isDigit = true
  reads : ∀ negative, ∃ zeros : Nat, Numeral.unsigned? negative text =
    some (.decimal negative (digits * 10 ^ zeros) (exponent - zeros))

/-- A text that reads as it stands has no zeros behind its digits. -/
theorem ReadsAs.exactly {text : List Char} {digits : Nat} {exponent : Int}
    (hstarts : ∃ c rest, text = c :: rest ∧ c.isDigit = true)
    (hreads : ∀ negative, Numeral.unsigned? negative text =
      some (.decimal negative digits exponent)) : ReadsAs text digits exponent where
  starts := hstarts
  reads negative := ⟨0, by
    rw [hreads, pow_zero, Nat.mul_one, Nat.cast_zero, Int.sub_zero]⟩

theorem starts_append {whole : List Char} (hne : whole ≠ [])
    (hwhole : ∀ c ∈ whole, c.isDigit = true) (rest : List Char) :
    ∃ c tail, whole ++ rest = c :: tail ∧ c.isDigit = true := by
  obtain ⟨c, tail, rfl⟩ := List.exists_cons_of_ne_nil hne
  exact ⟨c, tail ++ rest, rfl, hwhole c List.mem_cons_self⟩

theorem all_isDigit_append {first second : List Char} (h1 : ∀ c ∈ first, c.isDigit = true)
    (h2 : ∀ c ∈ second, c.isDigit = true) : ∀ c ∈ first ++ second, c.isDigit = true := by
  intro c hc
  exact (List.mem_append.1 hc).elim (h1 c) (h2 c)

theorem all_isDigit_replicate (n : Nat) : ∀ c ∈ List.replicate n '0', c.isDigit = true := by
  intro c hc
  obtain rfl := List.eq_of_mem_replicate hc
  rfl

/-- A whole number: zeros of the exponent stand behind the digits. -/
theorem readsAs_whole {digits : List Char} (hne : digits ≠ [])
    (hdigits : ∀ c ∈ digits, c.isDigit = true) {p : Int} (hp : 0 ≤ p) :
    ReadsAs (digits ++ List.replicate p.toNat '0') (ofDigits digits) p := by
  have hall := all_isDigit_append hdigits (all_isDigit_replicate p.toNat)
  refine ⟨starts_append hne hdigits _, fun negative => ?_⟩
  have hne' := List.append_ne_nil_of_left_ne_nil hne (List.replicate p.toNat '0')
  have hread := Numeral.unsigned?_whole negative hne' hall endsDigits_nil (by simp)
  have hexponent : p - p.toNat = 0 := by omega
  rw [List.append_nil, ofDigits_append_replicate] at hread
  refine ⟨p.toNat, ?_⟩
  rw [hread, hexponent]
  rfl

/-- A whole number with a point: one zero more, behind the point. -/
theorem readsAs_point {digits : List Char} (hne : digits ≠ [])
    (hdigits : ∀ c ∈ digits, c.isDigit = true) {p : Int} (hp : 0 ≤ p) :
    ReadsAs (digits ++ List.replicate p.toNat '0' ++ ".0".toList) (ofDigits digits) p := by
  have hall := all_isDigit_append hdigits (all_isDigit_replicate p.toNat)
  have hne' : digits ++ List.replicate p.toNat '0' ≠ [] :=
    List.append_ne_nil_of_left_ne_nil hne _
  refine ⟨starts_append hne' hall _, fun negative => ?_⟩
  have hread := Numeral.unsigned?_point negative (.inl hne') hall (all_isDigit_replicate 1)
    endsDigits_nil
  have hzeros : digits ++ List.replicate p.toNat '0' ++ List.replicate 1 '0' =
      digits ++ List.replicate (p.toNat + 1) '0' := by
    rw [List.append_assoc, List.replicate_append_replicate]
  have hexponent : p - (p.toNat + 1 : Nat) = 0 - (1 : Nat) := by omega
  rw [hzeros, ofDigits_append_replicate] at hread
  refine ⟨p.toNat + 1, ?_⟩
  rw [hexponent]
  exact hread

/-- A number with a point among its digits, or among the zeros put in front of them. -/
theorem readsAs_fraction {digits : List Char} (hdigits : ∀ c ∈ digits, c.isDigit = true)
    (places : Nat) :
    let padded := List.replicate (places + 1 - digits.length) '0' ++ digits
    ReadsAs (padded.take (padded.length - places) ++ '.' :: padded.drop (padded.length - places))
      (ofDigits digits) (-places) := by
  intro padded
  have hlength : places < padded.length := by
    simp only [padded, List.length_append, List.length_replicate]
    omega
  have hall : ∀ c ∈ padded, c.isDigit = true :=
    all_isDigit_append (all_isDigit_replicate _) hdigits
  have hwhole : ∀ c ∈ padded.take (padded.length - places), c.isDigit = true := fun c hc =>
    hall c (List.mem_of_mem_take hc)
  have hfraction : ∀ c ∈ padded.drop (padded.length - places), c.isDigit = true := fun c hc =>
    hall c (List.mem_of_mem_drop hc)
  have hne : padded.take (padded.length - places) ≠ [] := by
    rw [ne_eq, List.take_eq_nil_iff, not_or]
    exact ⟨by omega, List.ne_nil_of_length_pos (by omega)⟩
  have hplaces : (padded.drop (padded.length - places)).length = places := by
    rw [List.length_drop]
    omega
  refine .exactly (starts_append hne hwhole _) fun negative => ?_
  have hread := Numeral.unsigned?_point negative (.inl hne) hwhole hfraction endsDigits_nil
  rw [List.append_nil, List.take_append_drop, hplaces, ofDigits_replicate_append] at hread
  simpa [Numeral.exponent?] using hread

theorem readsAs_positional (layout : Layout) {digits : List Char} (hne : digits ≠ [])
    (hdigits : ∀ c ∈ digits, c.isDigit = true) (p : Int) :
    ReadsAs (layout.positional digits p) (ofDigits digits) p := by
  unfold positional
  split_ifs with hp hpoint
  · exact readsAs_point hne hdigits hp
  · rw [List.append_nil]
    exact readsAs_whole hne hdigits hp
  · have hplaces : p = -((-p).toNat : Int) := by omega
    have hread := readsAs_fraction hdigits (-p).toNat
    rw [← hplaces] at hread
    exact hread

/-- A number with an exponent: the point stands behind the first digit, if there are more. -/
theorem readsAs_scientific {digits : List Char} (hne : digits ≠ [])
    (hdigits : ∀ c ∈ digits, c.isDigit = true) (p : Int) :
    ReadsAs (scientific digits (p + digits.length - 1)) (ofDigits digits) p := by
  have hmark : EndsDigits ('e' :: integer (p + digits.length - 1)) := by simp [EndsDigits]
  match digits, hne, hdigits with
  | [first], hne, hdigits =>
    refine .exactly (starts_append hne hdigits _) fun negative => ?_
    have hread := Numeral.unsigned?_whole negative hne hdigits hmark (by simp)
    rw [Numeral.exponent?_integer] at hread
    simpa [scientific] using hread
  | first :: second :: rest, _, hdigits =>
    have hwhole : ∀ c ∈ [first], c.isDigit = true := fun c hc =>
      hdigits c (by simp [List.mem_singleton.1 hc])
    have hfraction : ∀ c ∈ second :: rest, c.isDigit = true := fun c hc =>
      hdigits c (List.mem_cons_of_mem first hc)
    refine .exactly ⟨first, _, rfl, hdigits first List.mem_cons_self⟩ fun negative => ?_
    have hread := Numeral.unsigned?_point negative (.inl (List.cons_ne_nil first [])) hwhole
      hfraction hmark
    have hexponent : p + (first :: second :: rest).length - 1 - (second :: rest).length = p := by
      simp only [List.length_cons]
      omega
    rw [Numeral.exponent?_integer, Option.map_some, hexponent] at hread
    exact hread

/-- What a layout writes for a decimal reads as that decimal. -/
theorem readsAs_magnitude (layout : Layout) (decimal : Decimal) :
    ReadsAs (layout.magnitude decimal) decimal.digits decimal.exponent := by
  have hne := toDigits_ne_nil decimal.digits
  have hdigits : ∀ c ∈ toDigits decimal.digits, c.isDigit = true := fun _ hc =>
    isDigit_of_mem_toDigits hc
  have hpositional := readsAs_positional layout hne hdigits decimal.exponent
  have hscientific := readsAs_scientific hne hdigits decimal.exponent
  rw [ofDigits_toDigits] at hpositional hscientific
  rw [magnitude]
  split_ifs
  · exact hpositional
  · exact hscientific

/-! ## Characters of printed numbers -/

/-- A digit, a sign, a point, or a letter of an exponent or of an infinity. -/
def isFigure (c : Char) : Bool :=
  c.isDigit || "-.einf".toList.contains c

/-- A digit, a sign, a point, or a letter of an exponent or of a name. -/
def isNumberChar (c : Char) : Bool :=
  c.isDigit || "-.einfNa".toList.contains c

theorem isFigure_of_isDigit {c : Char} (h : c.isDigit = true) : isFigure c = true := by
  rw [isFigure, h, Bool.true_or]

theorem isNumberChar_of_isFigure {c : Char} (h : isFigure c = true) : isNumberChar c = true := by
  have hletters : ∀ d ∈ "-.einf".toList, isNumberChar d = true :=
    List.all_eq_true.1 (by decide)
  rw [isFigure, Bool.or_eq_true, List.contains_iff_mem] at h
  rcases h with h | h
  · rw [isNumberChar, h, Bool.true_or]
  · exact hletters c h

theorem isFigure_of_mem_sign {negative : Bool} {c : Char} (h : c ∈ sign negative) :
    isFigure c = true := by
  cases negative with
  | false => cases h
  | true =>
    obtain rfl := List.mem_singleton.1 h
    rfl

/-- Positional notation has digits and a point. -/
theorem isDigit_or_point_of_mem_positional {layout : Layout} {digits : List Char} {p : Int}
    (hdigits : ∀ c ∈ digits, c.isDigit = true) {c : Char}
    (h : c ∈ layout.positional digits p) : c.isDigit = true ∨ c = '.' := by
  have hzeros : ∀ n, ∀ d ∈ digits ++ List.replicate n '0', d.isDigit = true := fun n =>
    all_isDigit_append hdigits (all_isDigit_replicate n)
  have hpadded : ∀ n, ∀ d ∈ List.replicate n '0' ++ digits, d.isDigit = true := fun n =>
    all_isDigit_append (all_isDigit_replicate n) hdigits
  unfold positional at h
  split_ifs at h
  · rcases List.mem_append.1 h with h | h
    · exact .inl (hzeros _ c h)
    · rcases List.mem_cons.1 h with rfl | h
      · exact .inr rfl
      · obtain rfl := List.mem_singleton.1 h
        exact .inl rfl
  · rw [List.append_nil] at h
    exact .inl (hzeros _ c h)
  · rcases List.mem_append.1 h with h | h
    · exact .inl (hpadded _ c (List.mem_of_mem_take h))
    · rcases List.mem_cons.1 h with rfl | h
      · exact .inr rfl
      · exact .inl (hpadded _ c (List.mem_of_mem_drop h))

theorem isFigure_of_mem_integer {i : Int} {c : Char} (h : c ∈ integer i) :
    isFigure c = true := by
  have hdigits : c ∈ toDigits i.natAbs → isFigure c = true := fun hc =>
    isFigure_of_isDigit (isDigit_of_mem_toDigits hc)
  unfold integer at h
  split_ifs at h
  · rcases List.mem_cons.1 h with rfl | h
    · rfl
    · exact hdigits h
  · exact hdigits h

theorem isFigure_of_mem_scientific {digits : List Char} {leading : Int}
    (hdigits : ∀ c ∈ digits, c.isDigit = true) {c : Char} (h : c ∈ scientific digits leading) :
    isFigure c = true := by
  have hexponent : c ∈ 'e' :: integer leading → isFigure c = true := by
    intro hc
    rcases List.mem_cons.1 hc with rfl | hc
    · rfl
    · exact isFigure_of_mem_integer hc
  unfold scientific at h
  split at h
  · next first second rest =>
    rcases List.mem_append.1 h with h | h
    · rcases List.mem_cons.1 h with rfl | h
      · exact isFigure_of_isDigit (hdigits c List.mem_cons_self)
      · rcases List.mem_cons.1 h with rfl | h
        · rfl
        · exact isFigure_of_isDigit (hdigits c (List.mem_cons_of_mem first h))
    · exact hexponent h
  · rcases List.mem_append.1 h with h | h
    · exact isFigure_of_isDigit (hdigits c h)
    · exact hexponent h

/-- Only a NaN has other letters. -/
theorem isFigure_of_mem_print {layout : Layout} {x : Binary64} (hx : x ≠ .nan) {c : Char}
    (h : c ∈ layout.print x) : isFigure c = true := by
  have hname : ∀ d ∈ "inf".toList, isFigure d = true := List.all_eq_true.1 (by decide)
  cases x with
  | nan => exact absurd rfl hx
  | infinity negative =>
    rcases List.mem_append.1 h with h | h
    · exact isFigure_of_mem_sign h
    · exact hname c h
  | finite negative code =>
    rcases List.mem_append.1 h with h | h
    · exact isFigure_of_mem_sign h
    · have hdigits : ∀ d ∈ toDigits (Decimal.shortest layout.tie code).digits, d.isDigit = true :=
        fun _ hd => isDigit_of_mem_toDigits hd
      rw [magnitude] at h
      split_ifs at h
      · rcases isDigit_or_point_of_mem_positional hdigits h with h | rfl
        · exact isFigure_of_isDigit h
        · rfl
      · exact isFigure_of_mem_scientific hdigits h

theorem isNumberChar_of_mem_print {layout : Layout} {x : Binary64} {c : Char}
    (h : c ∈ layout.print x) : isNumberChar c = true := by
  by_cases hx : x = .nan
  · have hname : ∀ d ∈ "NaN".toList, isNumberChar d = true := List.all_eq_true.1 (by decide)
    subst hx
    exact hname c h
  · exact isNumberChar_of_isFigure (isFigure_of_mem_print hx h)

/-- Expressions show finite numbers without an exponent. -/
theorem mem_print_plain {x : Binary64} (hx : x.isFinite = true) {c : Char} (h : c ∈ plain.print x) :
    c.isDigit = true ∨ c = '-' ∨ c = '.' := by
  match x with
  | .finite negative code =>
    have hdigits : ∀ d ∈ toDigits (Decimal.shortest plain.tie code).digits, d.isDigit = true :=
      fun _ hd => isDigit_of_mem_toDigits hd
    rcases List.mem_append.1 h with h | h
    · cases negative with
      | false => cases h
      | true => exact .inr (.inl (List.mem_singleton.1 h))
    · exact (isDigit_or_point_of_mem_positional hdigits h).imp_right .inr

end Layout

/-- The text of a finite number is read as its shortest decimal, but for zeros behind the digits. -/
theorem Numeral.read?_print (layout : Layout) (negative : Bool) (code : Fin infinityCode) :
    let decimal := Decimal.shortest layout.tie code
    ∃ zeros : Nat, read? (layout.print (.finite negative code)) =
      some (.decimal negative (decimal.digits * 10 ^ zeros) (decimal.exponent - zeros)) := by
  intro decimal
  obtain ⟨⟨c, rest, hcons, hc⟩, hreads⟩ := layout.readsAs_magnitude decimal
  obtain ⟨zeros, hread⟩ := hreads negative
  have hsplit : splitSign (Layout.sign negative ++ c :: rest) = (negative, c :: rest) :=
    splitSign_sign negative hc
  refine ⟨zeros, ?_⟩
  rw [hcons] at hread
  rw [Layout.print, hcons, read?_of_splitSign hsplit (.inl hc), hread]

namespace Binary64

/-- The text of a number reads back as that number. -/
theorem read?_print (layout : Layout) (x : Binary64) : read? (layout.print x) = some x := by
  cases x with
  | nan => rfl
  | infinity negative => cases negative <;> rfl
  | finite negative code =>
    obtain ⟨zeros, hread⟩ := Numeral.read?_print layout negative code
    rw [read?, hread, Option.map_some, Numeral.toBinary64, Numeral.decimalCode_mul_pow,
      Int.sub_add_cancel, Decimal.decimalCode_shortest layout.tie code.isLt.le, ofCode_val]

/-- The text of a number is an operand if the number is finite, and stands for no other number. -/
theorem operand?_print_eq_some_iff (layout : Layout) {x y : Binary64} :
    operand? (layout.print x) = some y ↔ y = x ∧ x.isFinite = true := by
  rw [operand?, read?_print, Option.filter_eq_some_iff, Option.some_inj]
  constructor
  · rintro ⟨rfl, hx⟩
    exact ⟨rfl, hx⟩
  · rintro ⟨rfl, hx⟩
    exact ⟨rfl, hx⟩

end Binary64

end Abacus
