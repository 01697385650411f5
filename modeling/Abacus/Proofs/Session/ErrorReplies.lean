import Abacus.Proofs.Session.Failures
import Abacus.Proofs.Session.Footprint

/-!
# Errors in the log and in the output

A line of the output in which an error is replied can be told by how it begins (`errorReplies`). No
other reply has such a line, whatever words or records it shows (`silent_resultReply`,
`silent_listing`), so the output says of each line whether the log has its refusal
(`errorReplies_reply`), and of all lines as well: `errorReplies_exchange`. `execute_failures` joins
this with what is in the log.
-/

namespace Abacus.Session

variable {line : Bytes} {error : EvalError} {events : List Log.Event}

/-! ## Lines of an output -/

/-- How a line of the output begins in which an error is replied. -/
def errorMark : Text :=
  prompt ++ "Error:".toList

/-- The lines of an output in which errors are replied. -/
def errorReplies (output : Text) : List Text :=
  (output.splitOn '\n').filter (errorMark.isPrefixOf ·)

/-- The line of an output in which an error is replied. -/
def errorLine (error : EvalError) : Text :=
  prompt ++ "Error: ".toList ++ error.message

theorem errorReplies_cons {body : Text} (h : '\n' ∉ body) (rest : Text) :
    errorReplies (body ++ '\n' :: rest) =
      [body].filter (errorMark.isPrefixOf ·) ++ errorReplies rest := by
  rw [errorReplies, List.splitOn_append_cons_self, List.splitOn_eq_singleton h,
    List.filter_append]
  rfl

/-- A text of whole lines in none of which an error is replied. -/
def Silent (text : Text) : Prop :=
  ∀ rest, errorReplies (text ++ rest) = errorReplies rest

theorem Silent.append {first second : Text} (h : Silent first) (h' : Silent second) :
    Silent (first ++ second) := by
  intro rest
  rw [List.append_assoc, h, h']

theorem Silent.errorReplies_eq {text : Text} (h : Silent text) : errorReplies text = [] := by
  rw [← List.append_nil text, h]
  rfl

theorem newline_notMem_prompt : '\n' ∉ prompt := by decide

theorem isLine_prompt_append {text : Text} (h : IsLine text) : IsLine (prompt ++ text) := by
  obtain ⟨body, rfl, hbody⟩ := h
  refine ⟨prompt ++ body, by rw [List.append_assoc], fun hmem => ?_⟩
  exact (List.mem_append.1 hmem).elim newline_notMem_prompt hbody

theorem silent_of_isLine {text : Text} (hline : IsLine text) (h : ¬errorMark <+: text) :
    Silent text := by
  obtain ⟨body, rfl, hbody⟩ := hline
  intro rest
  have hmark : errorMark.isPrefixOf body = false := by
    refine Bool.eq_false_iff.2 fun hbegins => h ?_
    exact (List.isPrefixOf_iff_prefix.1 hbegins).trans (List.prefix_append body _)
  rw [List.append_assoc, List.singleton_append, errorReplies_cons hbody,
    List.filter_cons_of_neg (by rw [hmark]; exact Bool.false_ne_true)]
  rfl

/-- Prompts and errors begin with the same letter, so a line with another one is silent, also behind
a prompt. -/
theorem silent_of_head {text : Text} (hline : IsLine text) (h : text.head? ≠ some 'E') :
    Silent text ∧ Silent (prompt ++ text) := by
  refine ⟨silent_of_isLine hline ?_, silent_of_isLine (isLine_prompt_append hline) ?_⟩
  · rintro ⟨rest, rfl⟩
    exact h rfl
  · rw [errorMark, List.prefix_append_right_inj]
    rintro ⟨rest, rfl⟩
    exact h rfl

theorem head?_listingLine_ne (number : Nat) (record : Record) :
    (listingLine number record).head? ≠ some 'E' := by
  intro h
  have hnotMem : 'E' ∉ padLeft 3 (toDigits number) := by
    rw [padLeft, List.mem_append, List.mem_replicate]
    rintro (⟨-, hblank⟩ | hdigit)
    · revert hblank
      decide
    · exact notMem_toDigits rfl number hdigit
  have hne : padLeft 3 (toDigits number) ≠ [] := by
    intro hnil
    have hlength := congrArg List.length hnil
    simp only [padLeft, List.length_append, List.length_replicate, List.length_nil] at hlength
    omega
  rw [listingLine, List.append_assoc, List.append_assoc, List.head?_append_of_ne_nil _ hne] at h
  exact hnotMem (List.mem_of_mem_head? h)

theorem silent_listingLines (number : Nat) (records : List Record) :
    Silent (listingLines number records) := by
  induction records generalizing number with
  | nil => exact fun rest => rfl
  | cons record records ih =>
    exact (silent_of_head (isLine_listingLine number record)
      (head?_listingLine_ne number record)).1.append (ih (number + 1))

/-- A listing replies with no error, whatever is listed. -/
theorem silent_listing (records : List Record) : Silent (prompt ++ listing records) := by
  cases records with
  | nil =>
    have hline : IsLine (listing []) := ⟨"No calculations yet.".toList, rfl, by decide⟩
    exact (silent_of_head hline (by decide)).2
  | cons record records =>
    have hlisting : prompt ++ listing (record :: records) =
        prompt ++ listingLine 1 record ++ listingLines 2 records := by
      rw [List.append_assoc]
      rfl
    rw [hlisting]
    exact (silent_of_head (isLine_listingLine 1 record)
      (head?_listingLine_ne 1 record)).2.append (silent_listingLines 2 records)

theorem silent_resultReply (result : Binary64) : Silent (prompt ++ resultReply result) := by
  have hhead : (resultReply result).head? = some 'R' := rfl
  exact (silent_of_head (isLine_resultReply result) (by rw [hhead]; decide)).2

theorem newline_notMem_of_isLine {body : Text} (h : IsLine (body ++ ['\n'])) : '\n' ∉ body := by
  obtain ⟨body', hbody, hnone⟩ := h
  rwa [List.append_cancel_right hbody]

theorem prompt_append_errorReply (error : EvalError) :
    prompt ++ errorReply error = errorLine error ++ ['\n'] := by
  unfold errorReply errorLine
  simp only [List.append_assoc]

/-- An error that is replied takes one line of the output. -/
theorem Fails.errorReplies_append (h : Fails line error) (earlier : List Bytes) (rest : Text) :
    errorReplies (prompt ++ replyTo earlier line ++ rest) =
      errorLine error :: errorReplies rest := by
  have hreply : replyTo earlier line = errorReply error := by
    rw [replyTo_of_not_history (h.not_keyword .history), h.lineReply_eq]
  have hline := isLine_lineReply (h.not_keyword .history) (h.not_keyword .exit)
  rw [h.lineReply_eq] at hline
  have hnewline : '\n' ∉ errorLine error := by
    refine newline_notMem_of_isLine ?_
    rw [← prompt_append_errorReply]
    exact isLine_prompt_append hline
  have hmark : errorMark.isPrefixOf (errorLine error) = true := by
    rw [List.isPrefixOf_iff_prefix, errorLine, errorMark, List.append_assoc,
      List.prefix_append_right_inj]
    exact List.prefix_append _ (' ' :: error.message)
  rw [hreply, prompt_append_errorReply, List.append_assoc, List.singleton_append,
    errorReplies_cons hnewline, List.filter_cons_of_pos hmark]
  rfl

/-! ## Replies -/

/-- The reply to a line is an error exactly if that is in the log. -/
theorem errorReplies_reply (h : Reports line events) (hexit : isKeyword .exit line = false)
    (earlier : List Bytes) (rest : Text) :
    errorReplies (prompt ++ replyTo earlier line ++ rest) =
      (Log.refusals events).map errorLine ++ errorReplies rest := by
  cases h with
  | @accepted record h =>
    have hreply : replyTo earlier line = resultReply record.result := by
      rw [replyTo_of_not_history (not_keyword_of_accepted h .history), lineReply_of_accepted h]
    rw [hreply]
    exact silent_resultReply record.result rest
  | @keyword k h =>
    cases k with
    | history =>
      rw [replyTo, if_pos h]
      exact silent_listing (acceptedIn earlier) rest
    | exit => exact absurd (h.symm.trans hexit) (by decide)
  | format h => exact h.errorReplies_append earlier rest
  | operator h => exact h.errorReplies_append earlier rest
  | numbers h => exact h.errorReplies_append earlier rest
  | divisor _ h => exact h.errorReplies_append earlier rest

theorem errorReplies_exchange {lines : List Bytes} {reports : List (List Log.Event)}
    (h : List.Forall₂ Reports lines reports)
    (hexit : ∀ line ∈ lines, isKeyword .exit line = false) (earlier : List Bytes) (rest : Text) :
    errorReplies (exchange earlier lines ++ rest) =
      (Log.refusals reports.flatten).map errorLine ++ errorReplies rest := by
  induction h generalizing earlier with
  | nil => rfl
  | @cons line events lines reports hreports _ ih =>
    obtain ⟨hline, hlines⟩ := List.forall_mem_cons.1 hexit
    rw [exchange_cons, List.append_assoc, errorReplies_reply hreports hline, ih hlines,
      List.flatten_cons, Log.refusals_append, List.map_append, List.append_assoc]

/-- Behind the last reply no error is replied, not even in the line of the save. -/
theorem errorReplies_ending (lines : List Bytes) {path : Text} (h : '\n' ∉ path) :
    errorReplies (prompt ++ if exits lines then [] else ['\n']) = [] ∧
      errorReplies (prompt ++ (if exits lines then [] else ['\n']) ++ savedLine path) = [] := by
  have hsaved : IsLine (savedLine path) := by
    refine ⟨_, rfl, fun hmem => (List.mem_append.1 hmem).elim (by decide) h⟩
  have hhead : (savedLine path).head? = some 'H' := rfl
  obtain ⟨hline, hbehind⟩ := silent_of_head hsaved (by rw [hhead]; decide)
  cases exits lines with
  | true =>
    rw [if_pos rfl, List.append_nil]
    exact ⟨by decide +kernel, hbehind.errorReplies_eq⟩
  | false =>
    have hbreak : Silent (prompt ++ ['\n']) :=
      (silent_of_head ⟨[], rfl, List.not_mem_nil⟩ (by decide)).2
    exact ⟨hbreak.errorReplies_eq, (hbreak.append hline).errorReplies_eq⟩

/-! ## Sessions -/

theorem newline_notMem_savePath {dir : Text} (h : '\n' ∉ dir) (now : Timestamp) :
    '\n' ∉ savePath dir now :=
  Path.notMem_join h (by decide) (Timestamp.notMem_fileName (by decide) rfl (by decide) now)

section Dialogue

variable {request : Request} {bodies : List Bytes} {tail : Bytes}
  (hcut : CutsInto request.input bodies tail)

include hcut

theorem spoken_eq_encode :
    spoken request = Utf8.encode (dialogue (linesOf bodies tail request.ending)) := by
  rw [spoken_eq, (script_lines hcut request.ending).1]

/-- The errors that a session replies are those of its log, up to the save and, where the directory
of the save breaks no line, in the whole output. -/
theorem errorReplies_dialogue {reports : List (List Log.Event)}
    (hreports : List.Forall₂ Reports (processed (linesOf bodies tail request.ending)) reports)
    (dir : Text) :
    errorReplies (Utf8.decodeLossy (spoken request)) =
        (Log.refusals reports.flatten).map errorLine ∧
      ('\n' ∉ dir → errorReplies (Utf8.decodeLossy (spoken request ++ told dir request)) =
        (Log.refusals reports.flatten).map errorLine) := by
  have hexchange := errorReplies_exchange hreports (fun _ => not_exit_of_mem_processed) []
  have hspoken : errorReplies (dialogue (linesOf bodies tail request.ending)) =
      (Log.refusals reports.flatten).map errorLine := by
    rw [dialogue, List.append_assoc, hexchange,
      (errorReplies_ending _ List.not_mem_nil).1, List.append_nil]
  rw [spoken_eq_encode hcut, Utf8.decodeLossy_encode]
  refine ⟨hspoken, fun hdir => ?_⟩
  unfold told
  cases hsaving : saving dir request with
  | mk tree outcome =>
    cases outcome with
    | error error => rw [List.append_nil, Utf8.decodeLossy_encode, hspoken]
    | ok path =>
      obtain ⟨rfl, -⟩ := FileTree.save_eq_ok hsaving
      have hending := (errorReplies_ending (linesOf bodies tail request.ending)
        (newline_notMem_savePath hdir request.now)).2
      rw [← Utf8.encode_append, Utf8.decodeLossy_encode, dialogue, List.append_assoc,
        List.append_assoc, hexchange, ← List.append_assoc, hending, List.append_nil]

end Dialogue

/-- Every failure is in the log, and in the output as well. A session whose output has the room for
all that it says, whether its save succeeds or not,
1. logs as errors, in this order, what `Reports` says of each line before the first `exit`: nothing
   of a line that is accepted or a keyword, its own refusal of any other line, and in front of that
   the calculator's if numbers or a zero divisor are to blame; then that the input broke, if it did
   and no line said `exit`;
2. replies with an error to as many lines as it has refused in the log, and with the same errors in
   the same order;
3. says nothing behind that but the line of its save, which looks like no reply unless the directory
   breaks the line. -/
theorem execute_failures {dir : Text} {request : Request} {bodies : List Bytes} {tail : Bytes}
    (hcut : CutsInto request.input bodies tail)
    (hroom : request.room.Takes (spoken request ++ told dir request)) :
    let lines := linesOf bodies tail request.ending
    let response := execute dir request
    let replied := errorReplies (Utf8.decodeLossy (spoken request))
    (∃ reports, List.Forall₂ Reports (processed lines) reports ∧
        Log.errors response.events = reports.flatten ++ breakReport lines request.ending ∧
        reports.countP (Log.refusals · ≠ []) = replied.length) ∧
      replied = (Log.refusals response.events).map errorLine ∧
      response.output = spoken request ++ told dir request ∧
      ('\n' ∉ dir → errorReplies (Utf8.decodeLossy response.output) = replied) := by
  intro lines response replied
  obtain ⟨reports, hreports, hscript⟩ := errors_script hcut request.ending
  have herrors : Log.errors response.events =
      reports.flatten ++ breakReport lines request.ending :=
    (errors_execute hroom.of_append).trans hscript
  have hrefusals : Log.refusals response.events = Log.refusals reports.flatten := by
    rw [← Log.refusals_errors, herrors, Log.refusals_append, refusals_breakReport, List.append_nil]
  obtain ⟨hreplied, hwhole⟩ := errorReplies_dialogue hcut hreports dir
  have houtput : response.output = spoken request ++ told dir request := output_execute hroom
  refine ⟨⟨reports, hreports, herrors, ?_⟩, ?_, houtput, fun hdir => ?_⟩
  · rw [countP_reports hreports, ← List.length_map errorLine, ← hreplied]
  · rw [hrefusals]
    exact hreplied
  · rw [houtput, hwhole hdir]
    exact hreplied.symm

/-- A line of each kind but one that exits, and an input that breaks within another line. -/
theorem execute_failures_broken :
    let input := Utf8.encode "1\n1 % 2\nx + 1e400\n1 / -0\nhistory\n2 * 3\noops".toList
    let request : Request :=
      ⟨input, .broken "gone".toList, .unlimited, .new ["home".toList],
        ⟨⟨2024, 2, 29, 23, 59, 8, 0⟩, by decide⟩⟩
    let response := execute "csv_history".toList request
    (∃ reports : List (List Log.Event), reports.length = 6 ∧
        Log.errors response.events = reports.flatten ++ [.inputFailed "gone".toList] ∧
        reports.countP (Log.refusals · ≠ []) = 4) ∧
      errorReplies (Utf8.decodeLossy response.output) =
        [.invalidFormat 1, .invalidOperator "%".toList,
          .invalidNumber ["x".toList, "1e400".toList], .divisionByZero].map errorLine := by
  intro input request response
  let bodies := ["1", "1 % 2", "x + 1e400", "1 / -0", "history", "2 * 3"].map
    fun line => Utf8.encode line.toList
  let tail := Utf8.encode "oops".toList
  let lines := linesOf bodies tail request.ending
  have hcut : CutsInto request.input bodies tail := by decide +kernel
  have hlines : (processed lines).length = 6 ∧ exits lines = false := by decide +kernel
  have hrefusals : Log.refusals response.events =
      [.invalidFormat 1, .invalidOperator "%".toList,
        .invalidNumber ["x".toList, "1e400".toList], .divisionByZero] := by
    decide +kernel
  obtain ⟨⟨reports, hreports, herrors, hcount⟩, hreplied, -, hwhole⟩ :=
    execute_failures hcut (Room.takes_unlimited (spoken request ++ told _ request))
  have hbreak : breakReport lines request.ending = [.inputFailed "gone".toList] :=
    if_neg (by rw [hlines.2]; exact Bool.false_ne_true)
  refine ⟨⟨reports, hreports.length_eq.symm.trans hlines.1, ?_, ?_⟩, ?_⟩
  · rw [herrors, hbreak]
  · rw [hcount, hreplied, hrefusals]
    rfl
  · rw [hwhole (by decide), hreplied, hrefusals]

end Abacus.Session
