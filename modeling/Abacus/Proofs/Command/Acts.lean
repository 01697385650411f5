import Abacus.Command.Handler
import Abacus.Proofs.Stream

/-!
# Acts and what they print

The bytes that acts print are those of their writes, one behind the other, and acts put out what one
write of these bytes does: `shown_playActs`. An output that takes all of them shows them all and
fails at none (`output_playActs`), and all that the acts log is reported (`events_playActs`); one
that does not shows as many of them as it takes, also in the middle of a write: `playActs_limited`.
-/

namespace Abacus

/-! ## Prints -/

/-- The bytes that an act prints. -/
def Act.output : Act → Bytes
  | .write bytes => bytes
  | _ => []

theorem Act.output_print (text : Text) : (Act.print text).output = Utf8.encode text :=
  rfl

/-- The bytes that acts print. -/
def printed (acts : List Act) : Bytes :=
  acts.flatMap Act.output

theorem printed_append (first second : List Act) :
    printed (first ++ second) = printed first ++ printed second :=
  List.flatMap_append

theorem printed_cons (act : Act) (acts : List Act) :
    printed (act :: acts) = act.output ++ printed acts :=
  List.flatMap_cons

theorem printed_logs (events : List Log.Event) : printed (events.map .log) = [] := by
  induction events with
  | nil => rfl
  | cons event events ih => exact ih

/-- Acts put out, and leave room for, what one write of all that they print does. -/
theorem shown_playActs (room : Room) (acts : List Act) :
    ((playActs room acts).output, (playActs room acts).outcome) =
      match room.write (printed acts) with
      | .ok room' => (printed acts, .ok room')
      | .error (sent, reason) => (sent, .error reason) := by
  induction acts generalizing room with
  | nil =>
    rw [show printed [] = [] from rfl, Room.write_nil]
    rfl
  | cons act acts ih =>
    cases act with
    | read bytes => exact ih room
    | log event => exact ih room
    | write bytes =>
      rw [printed_cons, Act.output, Room.write_append, playActs]
      cases room.write bytes with
      | error failure => rfl
      | ok room' =>
        obtain ⟨houtput, houtcome⟩ := Prod.ext_iff.1 (ih room')
        simp only at houtput houtcome ⊢
        rw [houtput, houtcome]
        cases room'.write (printed acts) with
        | error failure => rfl
        | ok room'' => rfl

/-- An output with the room for all that acts print shows it all. -/
theorem output_playActs {room : Room} {acts : List Act} (h : room.Takes (printed acts)) :
    (playActs room acts).output = printed acts ∧
      ∃ room', (playActs room acts).outcome = .ok room' ∧
        ∀ more, room.Takes (printed acts ++ more) → room'.Takes more := by
  obtain ⟨room', hwrite⟩ := h
  have hshown := shown_playActs room acts
  rw [hwrite] at hshown
  obtain ⟨houtput, houtcome⟩ := Prod.ext_iff.1 hshown
  refine ⟨houtput, room', houtcome, fun more hmore => ?_⟩
  obtain ⟨next, hnext, htakes⟩ := (room.takes_append _ more).1 hmore
  obtain rfl := Except.ok.inj (hwrite.symm.trans hnext)
  exact htakes

/-! ## Reports -/

/-- The event that an act reports, if it reports one. -/
def Act.event? : Act → Option Log.Event
  | .log event => some event
  | _ => none

/-- The events that acts log. -/
def logged (acts : List Act) : List Log.Event :=
  acts.filterMap Act.event?

theorem logged_append (first second : List Act) :
    logged (first ++ second) = logged first ++ logged second :=
  List.filterMap_append

/-- An output with the room for all that acts print keeps none of them from its report. -/
theorem events_playActs {room : Room} {acts : List Act} (h : room.Takes (printed acts)) :
    (playActs room acts).events = logged acts := by
  induction acts generalizing room with
  | nil => rfl
  | cons act acts ih =>
    cases act with
    | read bytes => exact ih h
    | log event => exact congrArg (event :: ·) (ih h)
    | write bytes =>
      rw [printed_cons] at h
      obtain ⟨room', hwrite, htakes⟩ := (room.takes_append bytes _).1 h
      simp only [playActs, hwrite]
      exact ih htakes

/-! ## Outputs that fail -/

theorem playActs_unlimited (acts : List Act) :
    (playActs .unlimited acts).output = printed acts ∧
      (playActs .unlimited acts).outcome = .ok .unlimited :=
  Prod.ext_iff.1 (shown_playActs .unlimited acts)

/-- An output of limited room shows what fits of all that acts print, and fails if some does
not. -/
theorem playActs_limited (n : Nat) (reason : Text) (acts : List Act) :
    (playActs (.limited n reason) acts).output = (printed acts).take n ∧
      (playActs (.limited n reason) acts).outcome =
        if (printed acts).length ≤ n then .ok (.limited (n - (printed acts).length) reason)
        else .error reason := by
  have hshown := shown_playActs (.limited n reason) acts
  rw [Room.write] at hshown
  by_cases hle : (printed acts).length ≤ n
  · rw [if_pos hle] at hshown ⊢
    rw [List.take_of_length_le hle]
    exact Prod.ext_iff.1 hshown
  · rw [if_neg hle] at hshown ⊢
    exact Prod.ext_iff.1 hshown

theorem result_playActs_limited (n : Nat) (reason : Text) (acts : List Act) :
    (playActs (.limited n reason) acts).result =
      if (printed acts).length ≤ n then .ok () else .error [reason] := by
  rw [Played.result, (playActs_limited n reason acts).2]
  split_ifs with hle
  · rfl
  · rfl

/-- What an output shows, and what room is left, depends on what is printed and on nothing else. -/
theorem playActs_congr {acts acts' : List Act} (h : printed acts = printed acts') (room : Room) :
    (playActs room acts).output = (playActs room acts').output ∧
      (playActs room acts).outcome = (playActs room acts').outcome := by
  have hshown := shown_playActs room acts
  rw [h, ← shown_playActs room acts'] at hshown
  exact Prod.ext_iff.1 hshown

end Abacus
