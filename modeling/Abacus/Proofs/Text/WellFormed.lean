import Abacus.Proofs.Text.Lossy

/-!
# Well-formed bytes

Bytes are well-formed if they are those of a text. The pieces of any bytes are the characters that
stand there (`Utf8.isInfix_encodeChar`) and faults, and bytes without a fault are well-formed, so
`Utf8.decode?` takes those bytes alone (`Utf8.decode?_eq_some_iff`) and every other byte sequence
shows a replacement character (`Utf8.replacement_mem_decodeLossy`).

The step is `encodeChar_append_of_follow`: a first byte and those that follow it, read as a code
point, are the bytes of its character. `lead?_cases` says which first bytes there are.
-/

namespace Abacus.Utf8

/-- The bytes of some text. -/
def IsText (bytes : Bytes) : Prop :=
  ∃ text, encode text = bytes

/-- What a fault shows as. -/
def replacement : Char :=
  '\uFFFD'

/-! ## First bytes -/

/-- A first byte announces up to three others. The bounds of the next one keep out what is shorter
with fewer bytes, surrogates, and what lies above the last code point. -/
theorem lead?_cases {b : UInt8} {lead : Lead} (h : lead? b = some lead) :
    (b.toNat < 0x80 ∧ lead = ⟨0, 0x80, 0xBF, b.toNat⟩) ∨
      (0xC2 ≤ b.toNat ∧ b.toNat < 0xE0 ∧ lead = ⟨1, 0x80, 0xBF, b.toNat - 0xC0⟩) ∨
      (∃ least greatest, 0xE0 ≤ b.toNat ∧ b.toNat < 0xF0 ∧ 0x80 ≤ least ∧ greatest ≤ 0xBF ∧
        (b.toNat = 0xE0 → 0xA0 ≤ least) ∧ (b.toNat = 0xED → greatest ≤ 0x9F) ∧
        lead = ⟨2, least, greatest, b.toNat - 0xE0⟩) ∨
      ∃ least greatest, 0xF0 ≤ b.toNat ∧ b.toNat < 0xF5 ∧ 0x80 ≤ least ∧ greatest ≤ 0xBF ∧
        (b.toNat = 0xF0 → 0x90 ≤ least) ∧ (b.toNat = 0xF4 → greatest ≤ 0x8F) ∧
        lead = ⟨3, least, greatest, b.toNat - 0xF0⟩ := by
  simp only [lead?] at h
  split at h
  · next hone => exact .inl ⟨hone, (Option.some.inj h).symm⟩
  split at h
  · cases h
  split at h
  · next h1 h2 h3 => exact .inr (.inl ⟨by omega, h3, (Option.some.inj h).symm⟩)
  split at h
  · next hE0 =>
    obtain rfl := Option.some.inj h
    exact .inr (.inr (.inl ⟨0xA0, 0xBF, by omega, by omega, by omega, by omega, by omega, by omega,
      by rw [hE0]⟩))
  split at h
  · next hED =>
    obtain rfl := Option.some.inj h
    exact .inr (.inr (.inl ⟨0x80, 0x9F, by omega, by omega, by omega, by omega, by omega, by omega,
      by rw [hED]⟩))
  split at h
  · obtain rfl := Option.some.inj h
    exact .inr (.inr (.inl ⟨0x80, 0xBF, by omega, by omega, by omega, by omega, by omega, by omega,
      rfl⟩))
  split at h
  · next hF0 =>
    obtain rfl := Option.some.inj h
    exact .inr (.inr (.inr ⟨0x90, 0xBF, by omega, by omega, by omega, by omega, by omega, by omega,
      by rw [hF0]⟩))
  split at h
  · obtain rfl := Option.some.inj h
    exact .inr (.inr (.inr ⟨0x80, 0xBF, by omega, by omega, by omega, by omega, by omega, by omega,
      rfl⟩))
  split at h
  · next hF4 =>
    obtain rfl := Option.some.inj h
    exact .inr (.inr (.inr ⟨0x80, 0x8F, by omega, by omega, by omega, by omega, by omega, by omega,
      by rw [hF4]⟩))
  · cases h

/-! ## Characters from their bytes -/

theorem toNat_ofNat_of_valid {n : Nat} (h : n < 0xD800 ∨ 0xDFFF < n ∧ n < 0x110000) :
    (Char.ofNat n).toNat = n := by
  have hvalid : n.isValidChar := h
  rw [Char.ofNat, dif_pos hvalid]
  rfl

theorem ofNat_eq {b : UInt8} {n : Nat} (h : n = b.toNat) : UInt8.ofNat n = b := by
  rw [h, UInt8.ofNat_toNat]

theorem continuation_eq {b : UInt8} {n : Nat} (h : 0x80 + n % 0x40 = b.toNat) :
    continuation n = b :=
  ofNat_eq h

theorem encodeChar_one {b : UInt8} (h : b.toNat < 0x80) :
    encodeChar (Char.ofNat b.toNat) = [b] := by
  rw [encodeChar, toNat_ofNat_of_valid (by omega)]
  simp only [if_pos h, UInt8.ofNat_toNat]

theorem encodeChar_two {b c : UInt8} {n : Nat} (hn : 0x80 ≤ n) (hlt : n < 0x800)
    (hb : 0xC0 + n / 0x40 = b.toNat) (hc : 0x80 + n % 0x40 = c.toNat) :
    encodeChar (Char.ofNat n) = [b, c] := by
  rw [encodeChar, toNat_ofNat_of_valid (by omega)]
  simp only [if_neg (Nat.not_lt.2 hn), if_pos hlt, ofNat_eq hb, continuation_eq hc]

theorem encodeChar_three {b c d : UInt8} {n : Nat} (hn : 0x800 ≤ n) (hlt : n < 0x10000)
    (hvalid : n < 0xD800 ∨ 0xDFFF < n) (hb : 0xE0 + n / 0x1000 = b.toNat)
    (hc : 0x80 + n / 0x40 % 0x40 = c.toNat) (hd : 0x80 + n % 0x40 = d.toNat) :
    encodeChar (Char.ofNat n) = [b, c, d] := by
  rw [encodeChar, toNat_ofNat_of_valid (by omega)]
  have h1 : ¬n < 0x80 := by omega
  simp only [if_neg h1, if_neg (Nat.not_lt.2 hn), if_pos hlt, ofNat_eq hb, continuation_eq hc,
    continuation_eq hd]

theorem encodeChar_four {b c d e : UInt8} {n : Nat} (hn : 0x10000 ≤ n) (hlt : n < 0x110000)
    (hb : 0xF0 + n / 0x40000 = b.toNat) (hc : 0x80 + n / 0x1000 % 0x40 = c.toNat)
    (hd : 0x80 + n / 0x40 % 0x40 = d.toNat) (he : 0x80 + n % 0x40 = e.toNat) :
    encodeChar (Char.ofNat n) = [b, c, d, e] := by
  rw [encodeChar, toNat_ofNat_of_valid (by omega)]
  have h1 : ¬n < 0x80 := by omega
  have h2 : ¬n < 0x800 := by omega
  simp only [if_neg h1, if_neg h2, if_neg (Nat.not_lt.2 hn), ofNat_eq hb, continuation_eq hc,
    continuation_eq hd, continuation_eq he]

theorem follow_zero_eq {least greatest bits n : Nat} {bytes rest : Bytes}
    (h : follow 0 least greatest bits bytes = (some n, rest)) : bits = n ∧ bytes = rest := by
  rw [follow, Prod.mk.injEq, Option.some.injEq] at h
  exact h

/-- Bytes that complete a character start with one that is within the bounds. -/
theorem exists_cons_of_follow {more least greatest bits n : Nat} {bytes rest : Bytes}
    (h : follow (more + 1) least greatest bits bytes = (some n, rest)) :
    ∃ b others, bytes = b :: others ∧ least ≤ b.toNat ∧ b.toNat ≤ greatest ∧
      follow more 0x80 0xBF (bits * 0x40 + (b.toNat - 0x80)) others = (some n, rest) := by
  cases bytes with
  | nil => cases h
  | cons b others =>
    rw [follow] at h
    split at h
    · next hb => exact ⟨b, others, rfl, hb.1, hb.2, h⟩
    · cases h

/-- A first byte and those that complete it are the bytes of the character that they are read as. -/
theorem encodeChar_append_of_follow {b : UInt8} {lead : Lead} {n : Nat} {bytes rest : Bytes}
    (hlead : lead? b = some lead)
    (h : follow lead.more lead.least lead.greatest lead.bits bytes = (some n, rest)) :
    encodeChar (Char.ofNat n) ++ rest = b :: bytes := by
  rcases lead?_cases hlead with ⟨hb, rfl⟩ | ⟨hb, hb', rfl⟩ |
    ⟨least, greatest, hb, hb', hl, hg, hE0, hED, rfl⟩ |
    ⟨least, greatest, hb, hb', hl, hg, hF0, hF4, rfl⟩
  · obtain ⟨rfl, rfl⟩ := follow_zero_eq h
    rw [encodeChar_one hb, List.singleton_append]
  · dsimp only at h
    obtain ⟨c, _, rfl, hc, hc', h⟩ := exists_cons_of_follow h
    obtain ⟨rfl, rfl⟩ := follow_zero_eq h
    rw [encodeChar_two (b := b) (c := c) (by omega) (by omega) (by omega) (by omega)]
    rfl
  · dsimp only at h
    obtain ⟨c, _, rfl, hc, hc', h⟩ := exists_cons_of_follow h
    obtain ⟨d, _, rfl, hd, hd', h⟩ := exists_cons_of_follow h
    obtain ⟨rfl, rfl⟩ := follow_zero_eq h
    rw [encodeChar_three (b := b) (c := c) (d := d) (by omega) (by omega) (by omega) (by omega)
      (by omega) (by omega)]
    rfl
  · dsimp only at h
    obtain ⟨c, _, rfl, hc, hc', h⟩ := exists_cons_of_follow h
    obtain ⟨d, _, rfl, hd, hd', h⟩ := exists_cons_of_follow h
    obtain ⟨e, _, rfl, he, he', h⟩ := exists_cons_of_follow h
    obtain ⟨rfl, rfl⟩ := follow_zero_eq h
    rw [encodeChar_four (b := b) (c := c) (d := d) (e := e) (by omega) (by omega) (by omega)
      (by omega) (by omega) (by omega)]
    rfl

/-! ## Pieces -/

theorem follow_suffix (more least greatest bits : Nat) (bytes : Bytes) :
    (follow more least greatest bits bytes).2 <:+ bytes := by
  induction more generalizing least greatest bits bytes with
  | zero => exact List.suffix_rfl
  | succ more ih =>
    cases bytes with
    | nil => exact List.suffix_rfl
    | cons b bytes =>
      rw [follow]
      split
      · exact (ih _ _ _ bytes).trans (List.suffix_cons b bytes)
      · exact List.suffix_rfl

/-- A character among the pieces stands in the bytes. -/
theorem isInfix_encodeChar {bytes : Bytes} {c : Char} (h : .scalar c ∈ pieces bytes) :
    encodeChar c <:+: bytes := by
  fun_induction pieces bytes with
  | case1 => cases h
  | case2 b bytes _ ih =>
    rcases List.mem_cons.1 h with h | h
    · cases h
    · exact (ih h).trans (List.suffix_cons b bytes).isInfix
  | case3 b bytes lead hlead followed ih =>
    rcases List.mem_cons.1 h with h | h
    · cases hn : followed.1 with
      | none =>
        rw [hn] at h
        cases h
      | some n =>
        rw [hn, pieceOf] at h
        cases h
        exact ⟨[], followed.2, encodeChar_append_of_follow hlead (Prod.ext hn rfl)⟩
    · have hsuffix : followed.2 <:+ b :: bytes :=
        (follow_suffix ..).trans (List.suffix_cons b bytes)
      exact (ih h).trans hsuffix.isInfix

/-- Bytes without a fault are those of the text that they are read as. -/
theorem encode_decodeLossy {bytes : Bytes} (h : .fault ∉ pieces bytes) :
    encode (decodeLossy bytes) = bytes := by
  fun_induction pieces bytes with
  | case1 => simp [decodeLossy, pieces, encode]
  | case2 => exact absurd List.mem_cons_self h
  | case3 b bytes lead hlead followed ih =>
    cases hn : followed.1 with
    | none =>
      rw [hn] at h
      exact absurd List.mem_cons_self h
    | some n =>
      have hrest := ih fun hmem => h (List.mem_cons_of_mem _ hmem)
      have hpieces : pieces (b :: bytes) = .scalar (Char.ofNat n) :: pieces followed.2 := by
        rw [pieces_of_lead hlead, hn, pieceOf]
      calc encode (decodeLossy (b :: bytes))
          = encodeChar (Char.ofNat n) ++ encode (decodeLossy followed.2) := by
            rw [decodeLossy, hpieces, List.map_cons, encode, List.flatMap_cons]
            rfl
        _ = b :: bytes := by rw [hrest, encodeChar_append_of_follow hlead (Prod.ext hn rfl)]

theorem isText_iff {bytes : Bytes} : IsText bytes ↔ .fault ∉ pieces bytes := by
  constructor
  · rintro ⟨text, rfl⟩
    simp [pieces_encode]
  · exact fun h => ⟨decodeLossy bytes, encode_decodeLossy h⟩

instance : DecidablePred IsText := fun _ =>
  decidable_of_iff _ isText_iff.symm

/-- Bytes are decoded to a text if they are its bytes, and no others are. -/
theorem decode?_eq_some_iff {bytes : Bytes} {text : Text} :
    decode? bytes = some text ↔ encode text = bytes := by
  constructor
  · intro h
    unfold decode? at h
    split at h
    · cases h
    · next hnone => exact Option.some.inj h ▸ encode_decodeLossy hnone
  · rintro rfl
    exact decode?_encode text

/-- Bytes that are no text show a replacement character. -/
theorem replacement_mem_decodeLossy {bytes : Bytes} (h : ¬IsText bytes) :
    replacement ∈ decodeLossy bytes :=
  List.mem_map.2 ⟨.fault, Decidable.of_not_not (mt isText_iff.2 h), rfl⟩

/-- A character below `0x80` of a decoded text is a byte that was decoded. -/
theorem mem_of_mem_decodeLossy {bytes : Bytes} {c : Char} (h : c ∈ decodeLossy bytes)
    (hc : c.toNat < 0x80) : UInt8.ofNat c.toNat ∈ bytes := by
  obtain ⟨piece, hpiece, hshown⟩ := List.mem_map.1 h
  cases piece with
  | fault =>
    subst hshown
    exact absurd hc (by decide)
  | scalar d =>
    obtain rfl : d = c := hshown
    refine (isInfix_encodeChar hpiece).subset ?_
    rw [encodeChar]
    exact if_pos hc ▸ List.mem_singleton_self _

end Abacus.Utf8
