import Abacus.History.Write
import Abacus.Proofs.Stream

/-!
# What an output gets of a history

The lines of a history go out one by one, and an output gets of them what it would get of the whole
text at once: `write_eq`. So an output that takes every byte gets the whole text
(`write_unlimited`), and one of limited room gets its first bytes (`write_limited`).
-/

namespace Abacus.History

/-- What comes of writing bytes at once, in which there are some number of records. -/
def atOnce (room : Room) (bytes : Bytes) (count : Nat) : Writing :=
  match room.write bytes with
  | .ok _ => ⟨bytes, .ok count⟩
  | .error (sent, reason) => ⟨sent, .error reason⟩

theorem atOnce_append (room : Room) (first second : Bytes) (count : Nat) :
    atOnce room (first ++ second) count =
      match room.write first with
      | .ok room' => (atOnce room' second count).behind first
      | .error (sent, reason) => ⟨sent, .error reason⟩ := by
  rw [atOnce, Room.write_append]
  cases room.write first with
  | error failure => rfl
  | ok room' =>
    simp only [atOnce]
    cases room'.write second with
    | error failure => rfl
    | ok room'' => rfl

/-- The records that are written are counted on. -/
theorem writeRecords_eq (room : Room) (count : Nat) (records : List Record) :
    writeRecords room count records =
      atOnce room (Utf8.encode (records.flatMap recordLine)) (count + records.length) := by
  induction records generalizing room count with
  | nil =>
    rw [writeRecords, atOnce, List.flatMap_nil, show Utf8.encode [] = [] from rfl, Room.write_nil]
    rfl
  | cons record records ih =>
    rw [List.flatMap_cons, Utf8.encode_append, atOnce_append, writeRecords]
    cases room.write (Utf8.encode (recordLine record)) with
    | error failure => rfl
    | ok room' => simp only [ih, List.length_cons, Nat.add_assoc, Nat.add_comm 1]

/-- The lines of a history go out as its text does at once. -/
theorem write_eq (room : Room) (records : List Record) :
    write room records = atOnce room (bytes records) records.length := by
  rw [bytes, text, Utf8.encode_append, atOnce_append, write]
  cases room.write (Utf8.encode headerLine) with
  | error failure => rfl
  | ok room' => simp only [writeRecords_eq, Nat.zero_add]

theorem write_unlimited (records : List Record) :
    write .unlimited records = ⟨bytes records, .ok records.length⟩ :=
  write_eq .unlimited records

theorem write_limited (n : Nat) (reason : Text) (records : List Record) :
    write (.limited n reason) records =
      if (bytes records).length ≤ n then ⟨bytes records, .ok records.length⟩
      else ⟨(bytes records).take n, .error reason⟩ := by
  rw [write_eq, atOnce, Room.write]
  by_cases hle : (bytes records).length ≤ n
  · rw [if_pos hle, if_pos hle]
  · rw [if_neg hle, if_neg hle]

end Abacus.History
