import Abacus.Text.Basic

/-!
# UTF-8

Characters as bytes and bytes as characters. `Utf8.pieces` cuts any bytes into well-formed
characters and faults; a fault is a maximal part that starts like a character and cannot be
continued to one, or a single byte that starts none. The two readings are views of the pieces:
`Utf8.decodeLossy` puts a replacement character for each fault, `Utf8.decode?` refuses them, and
`Utf8.validLength` counts the bytes before the first. `Utf8.decode?_encode`: what is encoded is read
back.
-/

namespace Abacus

namespace Utf8

/-! ## Encoding -/

/-- The continuation byte of the low six bits of `n`. -/
def continuation (n : Nat) : UInt8 :=
  UInt8.ofNat (0x80 + n % 0x40)

/-- The bytes of a character. -/
def encodeChar (c : Char) : Bytes :=
  let n := c.toNat
  if n < 0x80 then
    [UInt8.ofNat n]
  else if n < 0x800 then
    [UInt8.ofNat (0xC0 + n / 0x40), continuation n]
  else if n < 0x10000 then
    [UInt8.ofNat (0xE0 + n / 0x1000), continuation (n / 0x40), continuation n]
  else
    [UInt8.ofNat (0xF0 + n / 0x40000), continuation (n / 0x1000), continuation (n / 0x40),
      continuation n]

/-- The bytes of a text. -/
def encode (cs : Text) : Bytes :=
  cs.flatMap encodeChar

/-! ## Decoding -/

/-- What the first byte of a character says of the rest: how many bytes follow, between which
bounds the next one lies, and the bits it gives itself. -/
structure Lead where
  more : Nat
  least : Nat
  greatest : Nat
  bits : Nat

/-- The reading of a byte as the first of a character. The bounds leave out overlong forms,
surrogates and what lies above the last code point. -/
def lead? (b : UInt8) : Option Lead :=
  let n := b.toNat
  if n < 0x80 then some ⟨0, 0x80, 0xBF, n⟩
  else if n < 0xC2 then none
  else if n < 0xE0 then some ⟨1, 0x80, 0xBF, n - 0xC0⟩
  else if n = 0xE0 then some ⟨2, 0xA0, 0xBF, 0⟩
  else if n = 0xED then some ⟨2, 0x80, 0x9F, 0xD⟩
  else if n < 0xF0 then some ⟨2, 0x80, 0xBF, n - 0xE0⟩
  else if n = 0xF0 then some ⟨3, 0x90, 0xBF, 0⟩
  else if n < 0xF4 then some ⟨3, 0x80, 0xBF, n - 0xF0⟩
  else if n = 0xF4 then some ⟨3, 0x80, 0x8F, 4⟩
  else none

/-- Takes the bytes that continue a character, as far as they do: the code point if all are there,
and what is left. -/
def follow : Nat → Nat → Nat → Nat → Bytes → Option Nat × Bytes
  | 0, _, _, bits, rest => (some bits, rest)
  | _ + 1, _, _, _, [] => (none, [])
  | more + 1, least, greatest, bits, b :: rest =>
    if least ≤ b.toNat ∧ b.toNat ≤ greatest then
      follow more 0x80 0xBF (bits * 0x40 + (b.toNat - 0x80)) rest
    else
      (none, b :: rest)

theorem length_follow_le (more least greatest bits : Nat) (bytes : Bytes) :
    (follow more least greatest bits bytes).2.length ≤ bytes.length := by
  induction more generalizing least greatest bits bytes with
  | zero => simp [follow]
  | succ more ih =>
    cases bytes with
    | nil => simp [follow]
    | cons b rest =>
      rw [follow]
      split
      · exact Nat.le_succ_of_le (ih ..)
      · simp

/-- A part of a byte sequence. -/
inductive Piece where
  | scalar (c : Char)
  | fault
  deriving DecidableEq

/-- What a first byte and those that follow it make. -/
def pieceOf : Option Nat → Piece
  | some n => .scalar (Char.ofNat n)
  | none => .fault

/-- The characters and faults of a byte sequence. -/
def pieces : Bytes → List Piece
  | [] => []
  | b :: rest =>
    match lead? b with
    | none => .fault :: pieces rest
    | some lead =>
      let followed := follow lead.more lead.least lead.greatest lead.bits rest
      pieceOf followed.1 :: pieces followed.2
termination_by bytes => bytes.length
decreasing_by
  · simp
  · exact Nat.lt_succ_of_le (length_follow_le ..)

namespace Piece

/-- The character that stands for a piece; a fault shows as the replacement character. -/
def shown : Piece → Char
  | .scalar c => c
  | .fault => '\uFFFD'

end Piece

/-- The text of any bytes, faults replaced. -/
def decodeLossy (bytes : Bytes) : Text :=
  (pieces bytes).map Piece.shown

/-- The text of well-formed bytes. -/
def decode? (bytes : Bytes) : Option Text :=
  if .fault ∈ pieces bytes then none else some (decodeLossy bytes)

/-- The number of bytes before the first fault. -/
def validLength (bytes : Bytes) : Nat :=
  (encode ((pieces bytes).takeWhile (· ≠ .fault) |>.map Piece.shown)).length

/-! ## Characters as bytes -/

theorem encode_append (first second : Text) :
    encode (first ++ second) = encode first ++ encode second :=
  List.flatMap_append

/-- The first byte of a character is none that continues one. -/
theorem exists_encodeChar_eq_cons (c : Char) :
    ∃ b rest, encodeChar c = b :: rest ∧ (b.toNat < 0x80 ∨ 0xC0 ≤ b.toNat) := by
  have hv : c.toNat < 0xD800 ∨ 0xDFFF < c.toNat ∧ c.toNat < 0x110000 := c.valid
  simp only [encodeChar]
  split
  · exact ⟨_, _, rfl, .inl (by rw [UInt8.toNat_ofNat']; omega)⟩
  split
  · exact ⟨_, _, rfl, .inr (by rw [UInt8.toNat_ofNat']; omega)⟩
  split
  · exact ⟨_, _, rfl, .inr (by rw [UInt8.toNat_ofNat']; omega)⟩
  · exact ⟨_, _, rfl, .inr (by rw [UInt8.toNat_ofNat']; omega)⟩

/-- A byte below `0x80` is a character of its own. -/
theorem toNat_eq_of_mem_encodeChar {b : UInt8} {c : Char} (h : b ∈ encodeChar c)
    (hb : b.toNat < 0x80) : c.toNat = b.toNat := by
  have hv : c.toNat < 0xD800 ∨ 0xDFFF < c.toNat ∧ c.toNat < 0x110000 := c.valid
  simp only [encodeChar, continuation] at h
  split at h
  · rw [List.mem_singleton.1 h, UInt8.toNat_ofNat']
    omega
  · exfalso
    simp only [apply_ite (b ∈ ·), List.mem_cons, List.not_mem_nil, or_false] at h
    split at h
    · rcases h with rfl | rfl <;> rw [UInt8.toNat_ofNat'] at hb <;> omega
    split at h
    · rcases h with rfl | rfl | rfl <;> rw [UInt8.toNat_ofNat'] at hb <;> omega
    · rcases h with rfl | rfl | rfl | rfl <;> rw [UInt8.toNat_ofNat'] at hb <;> omega

theorem mem_of_mem_encode {b : UInt8} {cs : Text} (h : b ∈ encode cs) (hb : b.toNat < 0x80) :
    Char.ofNat b.toNat ∈ cs := by
  obtain ⟨c, hc, hmem⟩ := List.mem_flatMap.1 h
  rw [← toNat_eq_of_mem_encodeChar hmem hb, Char.ofNat_toNat]
  exact hc

/-! ## Round trip -/

theorem toNat_continuation (n : Nat) : (continuation n).toNat = 0x80 + n % 0x40 := by
  simp only [continuation, UInt8.toNat_ofNat']
  omega

theorem follow_cons {least greatest : Nat} {b : UInt8} (h : least ≤ b.toNat ∧ b.toNat ≤ greatest)
    (more bits : Nat) (rest : Bytes) :
    follow (more + 1) least greatest bits (b :: rest) =
      follow more 0x80 0xBF (bits * 0x40 + (b.toNat - 0x80)) rest := by
  rw [follow, if_pos h]

theorem follow_continuation (more bits n : Nat) (rest : Bytes) :
    follow (more + 1) 0x80 0xBF bits (continuation n :: rest) =
      follow more 0x80 0xBF (bits * 0x40 + n % 0x40) rest := by
  have h := toNat_continuation n
  rw [follow_cons (by omega), h, Nat.add_sub_cancel_left]

theorem pieces_of_lead {b : UInt8} {more least greatest bits : Nat}
    (h : lead? b = some ⟨more, least, greatest, bits⟩) (rest : Bytes) :
    pieces (b :: rest) = pieceOf (follow more least greatest bits rest).1 ::
      pieces (follow more least greatest bits rest).2 := by
  rw [pieces, h]

theorem lead?_of_lt_80 {n : Nat} (h : n < 0x80) :
    lead? (UInt8.ofNat n) = some ⟨0, 0x80, 0xBF, n⟩ := by
  have hb : (UInt8.ofNat n).toNat = n := by
    rw [UInt8.toNat_ofNat']
    omega
  rw [lead?, hb, if_pos h]

theorem lead?_of_lt_800 {n : Nat} (h1 : 0x80 ≤ n) (h2 : n < 0x800) :
    lead? (UInt8.ofNat (0xC0 + n / 0x40)) = some ⟨1, 0x80, 0xBF, n / 0x40⟩ := by
  have hb : (UInt8.ofNat (0xC0 + n / 0x40)).toNat = 0xC0 + n / 0x40 := by
    rw [UInt8.toNat_ofNat']
    omega
  rw [lead?, hb, if_neg (by omega), if_neg (by omega), if_pos (by omega), Nat.add_sub_cancel_left]

theorem lead?_of_lt_10000 (n : Nat) (h1 : 0x800 ≤ n) (h2 : n < 0x10000)
    (h3 : n < 0xD800 ∨ 0xDFFF < n) :
    ∃ least greatest, least ≤ 0x80 + n / 0x40 % 0x40 ∧ 0x80 + n / 0x40 % 0x40 ≤ greatest ∧
      lead? (UInt8.ofNat (0xE0 + n / 0x1000)) = some ⟨2, least, greatest, n / 0x1000⟩ := by
  have hb : (UInt8.ofNat (0xE0 + n / 0x1000)).toNat = 0xE0 + n / 0x1000 := by
    rw [UInt8.toNat_ofNat']
    omega
  rw [lead?, hb, if_neg (by omega), if_neg (by omega), if_neg (by omega)]
  by_cases hE0 : 0xE0 + n / 0x1000 = 0xE0
  · have hn : n / 0x1000 = 0 := by omega
    exact ⟨0xA0, 0xBF, by omega, by omega, by rw [if_pos hE0, hn]⟩
  by_cases hED : 0xE0 + n / 0x1000 = 0xED
  · have hn : n / 0x1000 = 0xD := by omega
    exact ⟨0x80, 0x9F, by omega, by omega, by rw [if_neg hE0, if_pos hED, hn]⟩
  exact ⟨0x80, 0xBF, by omega, by omega,
    by rw [if_neg hE0, if_neg hED, if_pos (by omega), Nat.add_sub_cancel_left]⟩

theorem lead?_of_lt_110000 (n : Nat) (h1 : 0x10000 ≤ n) (h2 : n < 0x110000) :
    ∃ least greatest, least ≤ 0x80 + n / 0x1000 % 0x40 ∧ 0x80 + n / 0x1000 % 0x40 ≤ greatest ∧
      lead? (UInt8.ofNat (0xF0 + n / 0x40000)) = some ⟨3, least, greatest, n / 0x40000⟩ := by
  have hb : (UInt8.ofNat (0xF0 + n / 0x40000)).toNat = 0xF0 + n / 0x40000 := by
    rw [UInt8.toNat_ofNat']
    omega
  rw [lead?, hb, if_neg (by omega), if_neg (by omega), if_neg (by omega), if_neg (by omega),
    if_neg (by omega), if_neg (by omega)]
  by_cases hF0 : 0xF0 + n / 0x40000 = 0xF0
  · have hn : n / 0x40000 = 0 := by omega
    exact ⟨0x90, 0xBF, by omega, by omega, by rw [if_pos hF0, hn]⟩
  by_cases hF4 : 0xF0 + n / 0x40000 < 0xF4
  · exact ⟨0x80, 0xBF, by omega, by omega,
      by rw [if_neg hF0, if_pos hF4, Nat.add_sub_cancel_left]⟩
  have hn : n / 0x40000 = 4 := by omega
  exact ⟨0x80, 0x8F, by omega, by omega,
    by rw [if_neg hF0, if_neg hF4, if_pos (by omega), hn]⟩

/-- The bytes of a character are cut off as that character, whatever follows. -/
theorem pieces_encodeChar_append (c : Char) (rest : Bytes) :
    pieces (encodeChar c ++ rest) = .scalar c :: pieces rest := by
  have hv : c.toNat < 0xD800 ∨ 0xDFFF < c.toNat ∧ c.toNat < 0x110000 := c.valid
  have hc : pieceOf (some c.toNat) = .scalar c := by rw [pieceOf, Char.ofNat_toNat]
  simp only [encodeChar]
  split
  · next h =>
    simp only [List.cons_append, List.nil_append]
    rw [pieces_of_lead (lead?_of_lt_80 h), follow, hc]
  split
  · next h1 h2 =>
    simp only [List.cons_append, List.nil_append]
    rw [pieces_of_lead (lead?_of_lt_800 (by omega) h2), follow_continuation, follow,
      show c.toNat / 0x40 * 0x40 + c.toNat % 0x40 = c.toNat by omega, hc]
  split
  · next h1 h2 h3 =>
    obtain ⟨least, greatest, hl, hg, hlead⟩ :=
      lead?_of_lt_10000 c.toNat (by omega) h3 (by omega)
    have hn := toNat_continuation (c.toNat / 0x40)
    simp only [List.cons_append, List.nil_append]
    rw [pieces_of_lead hlead, follow_cons (by omega), follow_continuation, follow, hn,
      show (c.toNat / 0x1000 * 0x40 + (0x80 + c.toNat / 0x40 % 0x40 - 0x80)) * 0x40 +
        c.toNat % 0x40 = c.toNat by omega, hc]
  · next h1 h2 h3 =>
    obtain ⟨least, greatest, hl, hg, hlead⟩ :=
      lead?_of_lt_110000 c.toNat (by omega) (by omega)
    have hn := toNat_continuation (c.toNat / 0x1000)
    simp only [List.cons_append, List.nil_append]
    rw [pieces_of_lead hlead, follow_cons (by omega), follow_continuation, follow_continuation,
      follow, hn,
      show ((c.toNat / 0x40000 * 0x40 + (0x80 + c.toNat / 0x1000 % 0x40 - 0x80)) * 0x40 +
        c.toNat / 0x40 % 0x40) * 0x40 + c.toNat % 0x40 = c.toNat by omega, hc]

theorem pieces_encode (cs : Text) : pieces (encode cs) = cs.map .scalar := by
  induction cs with
  | nil => simp [encode, pieces]
  | cons c cs ih =>
    rw [encode, List.flatMap_cons, pieces_encodeChar_append, List.map_cons]
    exact congrArg _ ih

theorem decodeLossy_encode (cs : Text) : decodeLossy (encode cs) = cs := by
  simp [decodeLossy, pieces_encode, Piece.shown, Function.comp_def]

theorem encode_inj {first second : Text} : encode first = encode second ↔ first = second := by
  constructor
  · intro h
    rw [← decodeLossy_encode first, h, decodeLossy_encode]
  · exact congrArg encode

/-- The bytes of a text are read back as that text. -/
theorem decode?_encode (cs : Text) : decode? (encode cs) = some cs := by
  rw [decode?, pieces_encode, if_neg (by simp), decodeLossy_encode]

end Utf8

end Abacus
