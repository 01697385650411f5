import Abacus.Proofs.Text.Ascii
import Abacus.Proofs.Text.WellFormed
import Abacus.Text.Lowercase

/-!
# Texts with a lower case in ASCII

Two characters beyond ASCII have one of ASCII in their lower case: the Kelvin sign has the letter k
alone, and the dotted capital I has an i and behind it the dot, which is a character beyond ASCII of
its own. All others stay beyond (`not_ascii_lowerCode`). So a word of ASCII that has no k is the
lower case of those texts alone that are the word up to the case of ASCII letters:
`lowercase_eq_iff`.
-/

namespace Abacus

/-! ## One character -/

/-- The Kelvin sign, which is not the capital K. -/
def kelvinSign : Char :=
  '\u212A'

theorem lowerChar_kelvinSign : lowerChar kelvinSign = ['k'] := by decide

/-- The lower case letters of a range of capitals are characters beyond ASCII, except for the range
of the Kelvin sign alone. -/
theorem capitalRanges_beyond : ∀ range ∈ capitalRanges,
    (range.1 = kelvinSign.toNat ∧ range.2.1 = kelvinSign.toNat) ∨
      0x80 ≤ range.2.2 ∧ (range.2.2 + (range.2.1 - range.1) < 0xD800 ∨
        0xDFFF < range.2.2 ∧ range.2.2 + (range.2.1 - range.1) < 0x110000) := by
  decide +kernel

theorem pairedRanges_valid : ∀ range ∈ pairedRanges, range.2 + 1 < 0xD800 := by
  decide

/-- The lower case of a code point beyond ASCII is one as well. -/
theorem not_ascii_lowerCode {c : Char} (hc : 0x80 ≤ c.toNat) (hkelvin : c ≠ kelvinSign) :
    0x80 ≤ (Char.ofNat (lowerCode c.toNat)).toNat := by
  have hne : c.toNat ≠ kelvinSign.toNat := fun h => hkelvin (Char.toNat_inj.1 h)
  unfold lowerCode
  split
  · next range hfind =>
    have hinside := List.find?_some hfind
    simp only [Bool.and_eq_true, decide_eq_true_eq] at hinside
    rcases capitalRanges_beyond range (List.mem_of_find?_eq_some hfind) with hsign | ⟨hbeyond, hvalid⟩
    · omega
    · rw [Utf8.toNat_ofNat_of_valid (by omega)]
      omega
  · dsimp only
    split
    · next hcapital =>
      obtain ⟨range, hmem, hinside⟩ := List.any_eq_true.1 hcapital
      simp only [Bool.and_eq_true, decide_eq_true_eq] at hinside
      have hvalid := pairedRanges_valid range hmem
      rw [Utf8.toNat_ofNat_of_valid (by omega)]
      omega
    · rwa [Char.ofNat_toNat]

/-- The lower case of a character beyond ASCII shows something beyond ASCII, or a k. -/
theorem exists_mem_lowerChar {c : Char} (hc : 0x80 ≤ c.toNat) :
    ∃ d ∈ lowerChar c, 0x80 ≤ d.toNat ∨ d = 'k' := by
  by_cases hkelvin : c = kelvinSign
  · rw [hkelvin, lowerChar_kelvinSign]
    exact ⟨'k', List.mem_singleton_self 'k', .inr rfl⟩
  · rw [lowerChar, if_neg (Nat.not_lt.2 hc)]
    split
    · exact ⟨'\u0307', by simp, .inl (by decide)⟩
    · exact ⟨_, List.mem_singleton_self _, .inl (not_ascii_lowerCode hc hkelvin)⟩

theorem not_ascii_lowerSigma (before after : Text) : 0x80 ≤ (lowerSigma before after).toNat := by
  rw [lowerSigma]
  split
  · decide
  · decide

/-! ## Texts -/

/-- The same of a text that holds such a character, whatever stands around it. -/
theorem exists_mem_lowercaseBehind {c : Char} (hc : 0x80 ≤ c.toNat) {cs : Text} (hmem : c ∈ cs)
    (before : Text) : ∃ d ∈ lowercaseBehind before cs, 0x80 ≤ d.toNat ∨ d = 'k' := by
  induction cs generalizing before with
  | nil => cases hmem
  | cons first cs ih =>
    rw [lowercaseBehind]
    rcases List.mem_cons.1 hmem with rfl | hmem
    · split
      · exact ⟨_, List.mem_cons_self, .inl (not_ascii_lowerSigma before cs)⟩
      · obtain ⟨d, hd, h⟩ := exists_mem_lowerChar hc
        exact ⟨d, List.mem_append_left _ hd, h⟩
    · obtain ⟨d, hd, h⟩ := ih hmem (first :: before)
      exact ⟨d, List.mem_append_right _ hd, h⟩

/-- A word of ASCII without a k is the lower case of the texts that are the word up to the case of
ASCII letters, and of no others. -/
theorem lowercase_eq_iff {word : Text} (hword : ∀ d ∈ word, d.toNat < 0x80 ∧ d ≠ 'k') (cs : Text) :
    lowercase cs = word ↔ cs.map Char.toLower = word := by
  constructor
  · intro h
    have hascii : IsAscii cs := by
      intro c hc
      refine Nat.lt_of_not_le fun hbeyond => ?_
      obtain ⟨d, hd, hd'⟩ := exists_mem_lowercaseBehind hbeyond hc []
      obtain ⟨hsmall, hk⟩ := hword d (h ▸ hd)
      exact hd'.elim (Nat.not_le.2 hsmall) hk
    rw [← lowercase_of_ascii hascii, h]
  · rintro rfl
    exact lowercase_of_ascii (isAscii_of_map_toLower fun d hd => (hword d hd).1)

/-- A word with a k has a further spelling. -/
example : lowercase ['o', kelvinSign] = "ok".toList := by decide

end Abacus
