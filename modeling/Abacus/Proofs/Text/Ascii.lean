import Abacus.Text.Utf8

/-!
# ASCII

Texts of ASCII, and the case of their letters: `Char.toLower` changes the letters of ASCII alone, so
texts can be compared up to the case of these letters, and of no others.
-/

namespace Abacus

def IsAscii (text : Text) : Prop :=
  ∀ c ∈ text, c.toNat < 0x80

theorem isAscii_append {first second : Text} (hfirst : IsAscii first) (hsecond : IsAscii second) :
    IsAscii (first ++ second) :=
  List.forall_mem_append.2 ⟨hfirst, hsecond⟩

theorem isAscii_of_isDigit {digits : Text} (h : ∀ c ∈ digits, c.isDigit = true) :
    IsAscii digits := by
  intro c hc
  have hdigit := h c hc
  simp only [Char.isDigit, Bool.and_eq_true, decide_eq_true_eq] at hdigit
  exact Nat.lt_of_le_of_lt (UInt32.le_iff_toNat_le.1 hdigit.2) (by decide)

/-- The bytes of a text in ASCII are the codes of its characters. -/
theorem Utf8.exists_of_mem_encode {text : Text} (h : IsAscii text) {b : UInt8}
    (hb : b ∈ encode text) : ∃ c ∈ text, c.toNat = b.toNat := by
  obtain ⟨c, hc, hmem⟩ := List.mem_flatMap.1 hb
  have hcode := h c hc
  rw [encodeChar, if_pos hcode, List.mem_singleton] at hmem
  refine ⟨c, hc, ?_⟩
  rw [hmem, UInt8.toNat_ofNat']
  omega

/-! ## Case -/

/-- Texts are the same up to the case of the letters of ASCII. -/
def SameLetters (first second : Text) : Prop :=
  first.map Char.toLower = second.map Char.toLower

theorem toLower_of_not_ascii {c : Char} (h : 0x80 ≤ c.toNat) : c.toLower = c := by
  refine dif_neg fun hcapital => ?_
  have hle : c.toNat ≤ 0x5A := UInt32.le_iff_toNat_le.1 hcapital.2
  omega

/-- A text is in ASCII if its letters are those of a text in ASCII. -/
theorem isAscii_of_map_toLower {text : Text} (h : IsAscii (text.map Char.toLower)) :
    IsAscii text := by
  intro c hc
  have hlower := h c.toLower (List.mem_map_of_mem hc)
  refine Nat.lt_of_not_le fun hbeyond => ?_
  rw [toLower_of_not_ascii hbeyond] at hlower
  omega

end Abacus
