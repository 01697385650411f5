/-!
# Decimal digits

Natural numbers written in decimal, most significant digit first. `ofDigits_toDigits`: the digits
of a number read back as that number.
-/

namespace Abacus

/-- The digit character of `d`, for `d < 10`. -/
def digitChar (d : Nat) : Char :=
  Char.ofNat (48 + d)

/-- What a digit character counts. -/
def digitValue (c : Char) : Nat :=
  c.toNat - 48

/-- The number that a run of digits writes. -/
def ofDigits (digits : List Char) : Nat :=
  digits.foldl (fun value c => 10 * value + digitValue c) 0

/-- The digits of a number, without leading zeros; zero has one digit. -/
def toDigits (n : Nat) : List Char :=
  if n < 10 then [digitChar n] else toDigits (n / 10) ++ [digitChar (n % 10)]

/-- The digits of a number, with zeros in front up to a width. -/
def padDigits (width n : Nat) : List Char :=
  let digits := toDigits n
  List.replicate (width - digits.length) '0' ++ digits

theorem digitValue_digitChar {d : Nat} (h : d < 10) : digitValue (digitChar d) = d := by
  have all : ∀ e < 10, digitValue (digitChar e) = e := by decide
  exact all d h

theorem isDigit_digitChar {d : Nat} (h : d < 10) : (digitChar d).isDigit = true := by
  have all : ∀ e < 10, (digitChar e).isDigit = true := by decide
  exact all d h

theorem ofDigits_append_singleton (digits : List Char) (c : Char) :
    ofDigits (digits ++ [c]) = 10 * ofDigits digits + digitValue c := by
  simp [ofDigits]

theorem ofDigits_toDigits (n : Nat) : ofDigits (toDigits n) = n := by
  induction n using Nat.strongRecOn with
  | ind n ih =>
    rw [toDigits]
    split
    · rename_i h
      simp [ofDigits, digitValue_digitChar h]
    · rename_i h
      rw [ofDigits_append_singleton, ih (n / 10) (by omega),
        digitValue_digitChar (Nat.mod_lt n (by decide))]
      omega

theorem isDigit_of_mem_toDigits {n : Nat} {c : Char} (h : c ∈ toDigits n) : c.isDigit = true := by
  induction n using Nat.strongRecOn with
  | ind n ih =>
    rw [toDigits] at h
    split at h
    · rename_i hn
      rw [List.mem_singleton.1 h]
      exact isDigit_digitChar hn
    · rcases List.mem_append.1 h with h | h
      · exact ih (n / 10) (by omega) h
      · rw [List.mem_singleton.1 h]
        exact isDigit_digitChar (Nat.mod_lt n (by decide))

theorem toDigits_ne_nil (n : Nat) : toDigits n ≠ [] := by
  rw [toDigits]
  split <;> simp

end Abacus
