import Abacus.Proofs.Command.Reuse
import Abacus.Proofs.Session.Transcript

/-!
# Sessions whose output fails

A session says all it has to say but one line before it saves. So an output that fails comes either
before the save, and then nothing is saved (`execute_of_lt`), or behind it, and then the save is
what it would have been (`execute_of_le`). `execute_limited` compares the two runs of a request,
with an output of limited room and with one that takes everything.
-/

namespace Abacus.Session

/-- What a session has said when it starts its save, if its output takes everything. -/
def spoken (request : Request) : Bytes :=
  (playActs .unlimited (script request.input request.ending).acts).output

/-- The save of a session: the tree behind it, and the path of the new file. -/
def saving (dir : Text) (request : Request) : FileTree × Except SaveError Text :=
  request.tree.save dir (script request.input request.ending).ledger.toList request.now

/-- What a session says behind its save. -/
def told (dir : Text) (request : Request) : Bytes :=
  match (saving dir request).2 with
  | .ok path => Utf8.encode (savedLine path)
  | .error _ => []

/-- How a session ends whose output takes everything. -/
def settled (dir : Text) (request : Request) : Except (List Text) Unit :=
  match (saving dir request).2 with
  | .ok _ => .ok ()
  | .error error => .error (saveFailure error.chain)

theorem spoken_eq (request : Request) :
    spoken request = printed (script request.input request.ending).acts :=
  (playActs_unlimited _).1

/-! ## One run -/

/-- A session with an output that takes everything. -/
theorem execute_unlimited (dir : Text) (request : Request) :
    let response := execute dir { request with room := .unlimited }
    response.output = spoken request ++ told dir request ∧
      response.tree = (saving dir request).1 ∧ response.result = settled dir request := by
  obtain ⟨-, houtcome⟩ := playActs_unlimited (script request.input request.ending).acts
  cases hsaving : saving dir request with
  | mk tree outcome =>
    rw [saving] at hsaving
    simp only [execute, houtcome, finish, told, settled, saving, hsaving]
    cases outcome with
    | error error => exact ⟨(List.append_nil _).symm, rfl, rfl⟩
    | ok path =>
      obtain ⟨hsaid, hend⟩ :=
        playActs_unlimited (savedActs path (script request.input request.ending).ledger.size)
      simp only [hsaid, hend, printed_savedActs, Played.result, spoken, true_and]

/-- An output that fails before the save leaves nothing saved. -/
theorem execute_of_lt (dir : Text) (request : Request) {n : Nat} (reason : Text)
    (h : n < (spoken request).length) :
    let response := execute dir { request with room := .limited n reason }
    response.output = (spoken request).take n ∧ response.tree = request.tree ∧
      response.result = .error [reason] := by
  rw [spoken_eq] at h ⊢
  obtain ⟨houtput, houtcome⟩ :=
    playActs_limited n reason (script request.input request.ending).acts
  rw [if_neg (Nat.not_le.2 h)] at houtcome
  simp only [execute, houtcome, Played.response, houtput, Played.result, and_self]

/-- An output that does not fail before the save fails in the last line or not at all, and the
save is the same. -/
theorem execute_of_le (dir : Text) (request : Request) {n : Nat} (reason : Text)
    (h : (spoken request).length ≤ n) :
    let response := execute dir { request with room := .limited n reason }
    response.output = (spoken request ++ told dir request).take n ∧
      response.tree = (saving dir request).1 ∧
      response.result =
        if (spoken request ++ told dir request).length ≤ n then settled dir request
        else .error [reason] := by
  obtain ⟨houtput, houtcome⟩ :=
    playActs_limited n reason (script request.input request.ending).acts
  rw [← spoken_eq, List.take_of_length_le h] at houtput
  rw [← spoken_eq, if_pos h] at houtcome
  cases hsaving : saving dir request with
  | mk tree outcome =>
    rw [saving] at hsaving
    simp only [execute, houtcome, houtput, finish, told, settled, saving, hsaving]
    cases outcome with
    | error error =>
      simp only [List.append_nil, List.take_of_length_le h, if_pos h, and_self]
    | ok path =>
      have hfits : (Utf8.encode (savedLine path)).length ≤ n - (spoken request).length ↔
          (spoken request).length + (Utf8.encode (savedLine path)).length ≤ n := by omega
      simp only [(playActs_limited _ _ _).1, result_playActs_limited, printed_savedActs, hfits,
        List.length_append, List.take_append, List.take_of_length_le h, and_self]

/-- An output with the room for all that a session says shows it all. -/
theorem output_execute {dir : Text} {request : Request}
    (h : request.room.Takes (spoken request ++ told dir request)) :
    (execute dir request).output = spoken request ++ told dir request := by
  obtain ⟨input, ending, room, tree, now⟩ := request
  cases room with
  | unlimited => exact (execute_unlimited dir ⟨input, ending, .unlimited, tree, now⟩).1
  | limited n reason =>
    have hfits := (Room.takes_limited_iff n reason _).1 h
    rw [List.length_append] at hfits
    obtain ⟨houtput, -⟩ := execute_of_le dir ⟨input, ending, .limited n reason, tree, now⟩ reason
      (Nat.le_of_add_right_le hfits)
    rw [← List.length_append] at hfits
    rw [houtput, List.take_of_length_le hfits]

/-! ## Two runs -/

/-- The built-in registry answers a session's name as the session does. -/
theorem execute_builtIn (config : Config) {text : Text}
    (htext : CommandName.ofText? text = some .calculator) (request : Request) :
    let execution := (Registry.builtIn config).execute text request
    let response := execute config.historyDir request
    execution.output = response.output ∧ execution.tree = response.tree ∧
      execution.result = response.result.mapError .failed := by
  simp only [Registry.execute, CommandName.parse, htext, Registry.find_builtIn_calculator]
  exact ⟨rfl, rfl, rfl⟩

/-- A request with an output of limited room, beside the same with one that takes everything.
1. The output is the front of the whole one, up to the limit.
2. If the limit comes before the save, the command fails for the output and nothing is saved.
3. If it does not, the save is the same, also where the line about it does not fit.
4. The command succeeds if it does with the whole output and all of that fits; where all fits, it
   ends alike, and where some does not, it fails for the output. -/
theorem execute_limited (config : Config) (request : Request) (n : Nat) (reason : Text)
    {text : Text} (htext : CommandName.ofText? text = some .calculator) :
    let run := fun room => (Registry.builtIn config).execute text { request with room }
    let whole := run .unlimited
    let cut := run (.limited n reason)
    whole.output = spoken request ++ told config.historyDir request ∧
      cut.output = whole.output.take n ∧
      (n < (spoken request).length →
        cut.result = .error (.failed [reason]) ∧ cut.tree = request.tree) ∧
      ((spoken request).length ≤ n → cut.tree = whole.tree) ∧
      (cut.result = .ok () ↔ whole.result = .ok () ∧ whole.output.length ≤ n) ∧
      cut.result = if whole.output.length ≤ n then whole.result else .error (.failed [reason]) := by
  intro run whole cut
  obtain ⟨hwhole, htree, hresult⟩ := execute_builtIn config htext { request with room := .unlimited }
  obtain ⟨hcut, htree', hresult'⟩ :=
    execute_builtIn config htext { request with room := .limited n reason }
  obtain ⟨houtput, hsaved, hsettled⟩ := execute_unlimited config.historyDir request
  rw [houtput] at hwhole
  rw [hsaved] at htree
  rw [hsettled] at hresult
  -- What is cut off, and how the command ends: in both cases the same of the whole output.
  have hends : cut.output = whole.output.take n ∧
      cut.result =
        if whole.output.length ≤ n then whole.result else .error (.failed [reason]) := by
    rcases Nat.lt_or_ge n (spoken request).length with hlt | hle
    · obtain ⟨hout, -, hend⟩ := execute_of_lt config.historyDir request reason hlt
      have hlong : ¬whole.output.length ≤ n := by
        rw [hwhole, List.length_append]
        omega
      rw [if_neg hlong, hwhole, List.take_append_of_le_length (Nat.le_of_lt hlt)]
      exact ⟨hcut.trans hout, by rw [hresult', hend]; rfl⟩
    · obtain ⟨hout, -, hend⟩ := execute_of_le config.historyDir request reason hle
      rw [hwhole, hresult]
      refine ⟨hcut.trans hout, ?_⟩
      rw [hresult', hend]
      split
      · rfl
      · rfl
  refine ⟨hwhole, hends.1, fun hlt => ?_, fun hle => ?_, ?_, hends.2⟩
  · obtain ⟨-, hkept, hend⟩ := execute_of_lt config.historyDir request reason hlt
    exact ⟨by rw [hresult', hend]; rfl, htree'.trans hkept⟩
  · obtain ⟨-, hsame, -⟩ := execute_of_le config.historyDir request reason hle
    rw [htree', hsame, htree]
  · rw [hends.2]
    split
    · next hfits => simp [hfits]
    · next hlong => simp [hlong]

/-- A session that says 176 bytes and saves behind 109 of them: cut off within its second prompt,
within its last line, and at its end. -/
theorem execute_limited_thrice :
    let request : Request :=
      ⟨Utf8.encode "1 + 2\nhist".toList, .broken "gone".toList, .unlimited, .new ["home".toList],
        ⟨⟨2024, 2, 29, 23, 59, 8, 0⟩, by decide⟩⟩
    let closed := "output closed".toList
    let run := fun room =>
      (Registry.builtIn .standard).execute " Calculator".toList { request with room }
    (run (.limited 100 closed)).tree = request.tree ∧
      (run (.limited 120 closed)).result = .error (.failed [closed]) ∧
      (run (.limited 120 closed)).tree = (run .unlimited).tree ∧
      (run (.limited 176 closed)).result = .ok () := by
  intro request closed run
  have hname : CommandName.ofText? " Calculator".toList = some .calculator := by decide
  have hspoken : (spoken request).length = 109 := by decide +kernel
  have hlength : (run .unlimited).output.length = 176 := by decide +kernel
  have hsucceeds : (run .unlimited).result = .ok () := by decide +kernel
  obtain ⟨-, -, hprompt, -⟩ := execute_limited .standard request 100 closed hname
  obtain ⟨-, -, -, hsaved, -, hline⟩ := execute_limited .standard request 120 closed hname
  obtain ⟨-, -, -, -, hend, -⟩ := execute_limited .standard request 176 closed hname
  refine ⟨(hprompt (by omega)).2, hline.trans (if_neg ?_), hsaved (by omega), ?_⟩
  · exact Nat.not_le.2 (hlength ▸ by decide)
  · exact hend.2 ⟨hsucceeds, Nat.le_of_eq hlength⟩

end Abacus.Session
