import Abacus.Stream
import Mathlib.Tactic.SplitIfs

/-!
# Outputs and their room

An output makes no difference between one write and two that put out the same bytes
(`Room.write_append`), so what counts is whether it takes all that is put out: `Room.Takes`.
-/

namespace Abacus

namespace Room

theorem write_nil (room : Room) : room.write [] = .ok room := by
  cases room with
  | unlimited => rfl
  | limited n reason =>
    rw [write, List.length_nil, if_pos n.zero_le]
    rfl

/-- Bytes are written at once as they are in two parts: the second where the first went through. -/
theorem write_append (room : Room) (first second : Bytes) :
    room.write (first ++ second) =
      match room.write first with
      | .ok room' => (room'.write second).mapError fun (sent, reason) => (first ++ sent, reason)
      | .error failure => .error failure := by
  cases room with
  | unlimited => rfl
  | limited n reason =>
    rw [write, write, List.length_append]
    by_cases hfirst : first.length ≤ n
    · simp only [if_pos hfirst, write]
      by_cases hsecond : second.length ≤ n - first.length
      · rw [if_pos hsecond, if_pos (by omega), Nat.sub_sub]
        rfl
      · rw [if_neg hsecond, if_neg (by omega), List.take_append, List.take_of_length_le hfirst]
        rfl
    · rw [if_neg hfirst, if_neg (by omega), List.take_append_of_le_length (Nat.le_of_not_le hfirst)]

/-- The output takes these bytes and does not fail. -/
def Takes (room : Room) (bytes : Bytes) : Prop :=
  ∃ room', room.write bytes = .ok room'

theorem takes_unlimited (bytes : Bytes) : unlimited.Takes bytes :=
  ⟨.unlimited, rfl⟩

theorem takes_limited_iff (n : Nat) (reason : Text) (bytes : Bytes) :
    (limited n reason).Takes bytes ↔ bytes.length ≤ n := by
  rw [Takes, write]
  split_ifs with hle
  · simpa using hle
  · simpa using hle

/-- Two writes take as much room as one write of both. -/
theorem takes_append (room : Room) (first second : Bytes) :
    room.Takes (first ++ second) ↔ ∃ room', room.write first = .ok room' ∧ room'.Takes second := by
  rw [Takes, write_append]
  cases room.write first with
  | error failure => simp
  | ok room' =>
    simp only [Except.ok.injEq, exists_eq_left', Takes]
    cases room'.write second with
    | error failure => simp [Except.mapError]
    | ok room'' => simp [Except.mapError]

theorem Takes.of_append {room : Room} {first second : Bytes}
    (h : room.Takes (first ++ second)) : room.Takes first := by
  obtain ⟨room', hwrite, -⟩ := (room.takes_append first second).1 h
  exact ⟨room', hwrite⟩

end Room

end Abacus
