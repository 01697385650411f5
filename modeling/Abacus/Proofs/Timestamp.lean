import Abacus.Proofs.Decimal.Layout
import Abacus.Timestamp

/-!
# Names of moments

The name of a moment has two digits for each of its fields, whatever the year (`length_stamp`), so
the fields can be told apart in it: `Timestamp.fileName_eq_iff`. The year counts within its century,
and within a hundred years the name tells every second from every other
(`whole_eq_of_sameStamp`).
-/

namespace Abacus

/-! ## Two digits -/

theorem length_padDigits_two {n : Nat} (h : n < 100) : (padDigits 2 n).length = 2 := by
  simp only [padDigits, List.length_append, List.length_replicate]
  rw [toDigits]
  split
  · rfl
  · rw [toDigits, if_pos (by omega)]
    rfl

theorem isDigit_of_mem_padDigits {width n : Nat} {c : Char} (h : c ∈ padDigits width n) :
    c.isDigit = true := by
  rcases List.mem_append.1 h with h | h
  · rw [List.eq_of_mem_replicate h]
    rfl
  · exact isDigit_of_mem_toDigits h

/-- Zeros in front of its digits do not hide a number. -/
theorem padDigits_injective (width : Nat) : Function.Injective (padDigits width) := by
  intro m n h
  have hvalue := congrArg ofDigits h
  simpa only [padDigits, ofDigits_replicate_append, ofDigits_toDigits] using hvalue

/-- Numbers of two digits can be told apart when they are written one behind the other. -/
theorem flatMap_padDigits_inj {ms ns : List Nat} (hm : ∀ m ∈ ms, m < 100) (hn : ∀ n ∈ ns, n < 100)
    (hlength : ms.length = ns.length) (h : ms.flatMap (padDigits 2) = ns.flatMap (padDigits 2)) :
    ms = ns := by
  induction ms generalizing ns with
  | nil => exact (List.length_eq_zero_iff.1 hlength.symm).symm
  | cons m ms ih =>
    cases ns with
    | nil => cases hlength
    | cons n ns =>
      obtain ⟨hm, hms⟩ := List.forall_mem_cons.1 hm
      obtain ⟨hn, hns⟩ := List.forall_mem_cons.1 hn
      rw [List.flatMap_cons, List.flatMap_cons] at h
      obtain ⟨hfirst, hrest⟩ :=
        List.append_inj h ((length_padDigits_two hm).trans (length_padDigits_two hn).symm)
      rw [padDigits_injective 2 hfirst, ih hms hns (Nat.succ.inj hlength) hrest]

namespace Timestamp

/-- Two moments agree in all that their names show: a leap second shows as second 60, and of the
year only its remainder by a hundred. -/
structure SameStamp (s t : Timestamp) : Prop where
  day : s.fields.day = t.fields.day
  month : s.fields.month = t.fields.month
  yearOfCentury : s.fields.year % 100 = t.fields.year % 100
  hour : s.fields.hour = t.fields.hour
  minute : s.fields.minute = t.fields.minute
  shownSecond : s.shownSecond = t.shownSecond

/-- A moment without the fraction of its second: a leap second counts in place of nanoseconds. -/
def whole (t : Timestamp) : ClockFields :=
  { t.fields with nanosecond := t.fields.nanosecond / 1000000000 }

/-! ## Fields -/

/-- The numbers that a name shows. -/
def shown (t : Timestamp) : List Nat :=
  [t.fields.day, t.fields.month, t.yearOfCentury, t.fields.hour, t.fields.minute, t.shownSecond]

theorem stamp_eq (t : Timestamp) : t.stamp = t.shown.flatMap (padDigits 2) := rfl

theorem month_le_of_daysInMonth_pos {year : Int} {month : Nat} (h : 0 < daysInMonth year month) :
    month ≤ 12 := by
  unfold daysInMonth at h
  split at h
  · omega
  split at h
  · next hmem =>
    simp only [List.mem_cons, List.not_mem_nil, or_false] at hmem
    omega
  split at h
  · next hle => exact hle.2
  · cases h

theorem daysInMonth_le (year : Int) (month : Nat) : daysInMonth year month ≤ 31 := by
  unfold daysInMonth
  split
  · split <;> decide
  split
  · decide
  split <;> decide

theorem bounds (t : Timestamp) :
    (1 ≤ t.fields.day ∧ t.fields.day ≤ daysInMonth t.fields.year t.fields.month) ∧
      t.fields.hour < 24 ∧ t.fields.minute < 60 ∧ t.fields.second < 60 ∧
      (t.fields.nanosecond < 1000000000 ∨
        t.fields.second = 59 ∧ t.fields.nanosecond < 2000000000) := by
  have hvalid := t.valid
  simp only [ClockFields.isValid, Bool.and_eq_true, Bool.or_eq_true, decide_eq_true_eq,
    beq_iff_eq] at hvalid
  obtain ⟨⟨⟨⟨⟨⟨-, hday⟩, hdays⟩, hhour⟩, hminute⟩, hsecond⟩, hnanosecond⟩ := hvalid
  exact ⟨⟨hday, hdays⟩, hhour, hminute, hsecond, hnanosecond⟩

/-- Every field that is shown has two digits. -/
theorem shown_lt (t : Timestamp) : ∀ n ∈ t.shown, n < 100 := by
  obtain ⟨⟨hday, hdays⟩, hhour, hminute, hsecond, hnanosecond⟩ := t.bounds
  have hmonth := month_le_of_daysInMonth_pos (Nat.lt_of_lt_of_le hday hdays)
  have hdays' := daysInMonth_le t.fields.year t.fields.month
  simp only [shown, List.forall_mem_cons, yearOfCentury, shownSecond, List.not_mem_nil,
    false_implies, implies_true, and_true]
  omega

/-- A leap second shows as second 60, and every other second as it is. -/
theorem shownSecond_eq (t : Timestamp) :
    t.shownSecond = if 1000000000 ≤ t.fields.nanosecond then 60 else t.fields.second := by
  obtain ⟨-, -, -, -, hnanosecond⟩ := t.bounds
  rw [shownSecond]
  split
  · omega
  · omega

/-! ## Names -/

theorem length_stamp (t : Timestamp) : t.stamp.length = 12 := by
  have hlt := t.shown_lt
  simp only [shown, List.forall_mem_cons] at hlt
  obtain ⟨hday, hmonth, hyear, hhour, hminute, hsecond, -⟩ := hlt
  simp only [stamp, List.flatMap_cons, List.flatMap_nil, List.length_append, List.length_nil,
    length_padDigits_two, hday, hmonth, hyear, hhour, hminute, hsecond]

theorem isDigit_of_mem_stamp {t : Timestamp} {c : Char} (h : c ∈ t.stamp) : c.isDigit = true := by
  obtain ⟨n, -, hn⟩ := List.mem_flatMap.1 h
  exact isDigit_of_mem_padDigits hn

/-- The name of a moment tells what it shows of the moment. -/
theorem fileName_eq_iff {s t : Timestamp} : s.fileName = t.fileName ↔ s.SameStamp t := by
  constructor
  · intro h
    have hstamp : s.stamp = t.stamp :=
      List.append_cancel_left (List.append_cancel_right h)
    rw [stamp_eq, stamp_eq] at hstamp
    have hshown := flatMap_padDigits_inj s.shown_lt t.shown_lt rfl hstamp
    simp only [shown, List.cons.injEq, and_true] at hshown
    obtain ⟨hday, hmonth, hyear, hhour, hminute, hsecond⟩ := hshown
    simp only [yearOfCentury] at hyear
    exact ⟨hday, hmonth, by omega, hhour, hminute, hsecond⟩
  · intro h
    have hshown : s.shown = t.shown := by
      simp only [shown, yearOfCentury, h.day, h.month, h.yearOfCentury, h.hour, h.minute,
        h.shownSecond]
    have hstamp : s.stamp = t.stamp := by rw [stamp_eq, stamp_eq, hshown]
    unfold fileName
    rw [hstamp]

/-- In a hundred years no two seconds have one name. -/
theorem whole_eq_of_sameStamp {s t : Timestamp} {first : Int}
    (hs : first ≤ s.fields.year ∧ s.fields.year < first + 100)
    (ht : first ≤ t.fields.year ∧ t.fields.year < first + 100) (h : s.SameStamp t) :
    s.whole = t.whole := by
  have hyear : s.fields.year = t.fields.year := by
    have hmod := h.yearOfCentury
    omega
  have hsecond : s.fields.second = t.fields.second ∧
      s.fields.nanosecond / 1000000000 = t.fields.nanosecond / 1000000000 := by
    obtain ⟨-, -, -, hs, hs'⟩ := s.bounds
    obtain ⟨-, -, -, ht, ht'⟩ := t.bounds
    have hshown := h.shownSecond
    rw [shownSecond, shownSecond] at hshown
    omega
  simp only [whole, ClockFields.mk.injEq]
  exact ⟨hyear, h.month, h.day, h.hour, h.minute, hsecond⟩

end Timestamp

end Abacus
