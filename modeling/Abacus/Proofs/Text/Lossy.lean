import Abacus.Text.Utf8
import Mathlib.Tactic.SplitIfs

/-!
# Decoding in parts

A byte below `0x80` is a character by itself and is part of no fault, wherever it stands. So what
is before it and what is behind it are decoded apart: `Utf8.decodeLossy_append_cons`. The line feed
is such a byte (`Utf8.decodeLossy_append_lineFeed`).
-/

namespace Abacus.Utf8

/-- No byte below `0x80` continues a character. -/
theorem least_of_lead? {b : UInt8} {lead : Lead} (h : lead? b = some lead) : 0x80 ≤ lead.least := by
  simp only [lead?] at h
  split_ifs at h <;> cases h <;> simp

/-- A byte that continues no character ends what follows a first byte, and is left with what is
behind it. -/
theorem follow_append_cons {b : UInt8} (hb : b.toNat < 0x80) (rest : Bytes) {least : Nat}
    (hleast : 0x80 ≤ least) (more greatest bits : Nat) (first : Bytes) :
    follow more least greatest bits (first ++ b :: rest) =
      ((follow more least greatest bits first).1,
        (follow more least greatest bits first).2 ++ b :: rest) := by
  induction more generalizing least greatest bits first with
  | zero => rfl
  | succ more ih =>
    cases first with
    | nil =>
      have hends : ¬(least ≤ b.toNat ∧ b.toNat ≤ greatest) := by omega
      simp only [List.nil_append, follow, if_neg hends]
    | cons c first =>
      rw [List.cons_append, follow, follow]
      split
      · exact ih (Nat.le_refl _) 0xBF _ first
      · rfl

theorem pieces_append_cons {b : UInt8} (hb : b.toNat < 0x80) (first rest : Bytes) :
    pieces (first ++ b :: rest) =
      pieces first ++ .scalar (Char.ofNat b.toNat) :: pieces rest := by
  fun_induction pieces first with
  | case1 =>
    have hlead := lead?_of_lt_80 hb
    rw [UInt8.ofNat_toNat] at hlead
    rw [List.nil_append, List.nil_append, pieces_of_lead hlead, follow, pieceOf]
  | case2 c first hnone ih => rw [List.cons_append, pieces, hnone, ih, List.cons_append]
  | case3 c first lead hlead followed ih =>
    rw [List.cons_append, pieces_of_lead hlead, follow_append_cons hb rest (least_of_lead? hlead),
      ih, List.cons_append]

/-- What is before a byte below `0x80` and what is behind it are decoded apart. -/
theorem decodeLossy_append_cons {b : UInt8} (hb : b.toNat < 0x80) (first rest : Bytes) :
    decodeLossy (first ++ b :: rest) =
      decodeLossy first ++ Char.ofNat b.toNat :: decodeLossy rest := by
  rw [decodeLossy, pieces_append_cons hb, List.map_append, List.map_cons, Piece.shown]
  rfl

/-- A line feed behind bytes is a line break behind their text, also where they end within a
character. -/
theorem decodeLossy_append_lineFeed (bytes : Bytes) :
    decodeLossy (bytes ++ [lineFeed]) = decodeLossy bytes ++ ['\n'] := by
  rw [decodeLossy_append_cons (by decide)]
  simp [decodeLossy, pieces, lineFeed]

/-- A character that is broken off by a line feed is one fault. -/
example : decodeLossy [0x31, 0xE2, 0x82, 0x0A] = ['1', '\uFFFD', '\n'] := by
  decide +kernel

end Abacus.Utf8
