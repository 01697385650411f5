import Abacus.Proofs.Command.Acts
import Abacus.Proofs.Session.Lines
import Abacus.Proofs.Session.Reply
import Mathlib.Data.List.TakeWhile

/-!
# Transcripts of sessions

A session replies to its lines before the first `exit`. `turn_of_not_exit` says what one line prints
and records behind the lines before it, and `run_lines` what all of them do, by induction over the
lines. `execute_of_save`: where the output has room and the save succeeds, a session answers with
what its script prints and the line of the save. `execute_transcript` puts them together.
-/

namespace Abacus.Session

/-! ## Transcripts -/

/-- The lines that a session replies to: those before the first `exit`. -/
def processed (lines : List Bytes) : List Bytes :=
  lines.takeWhile (!isKeyword .exit ·)

/-- Some line says `exit`. -/
def exits (lines : List Bytes) : Bool :=
  lines.any (isKeyword .exit)

/-- A prompt and a reply for each line, behind some earlier lines. -/
def exchange (earlier lines : List Bytes) : Text :=
  (lines.mapIdx fun i line => prompt ++ replyTo (earlier ++ lines.take i) line).flatten

/-- All that a session says before it saves: an `exit` is not replied to, and without one there is
a line break behind the last prompt. -/
def dialogue (lines : List Bytes) : Text :=
  exchange [] (processed lines) ++ prompt ++ if exits lines then [] else ['\n']

section Cons

variable {line : Bytes} (lines : List Bytes)

theorem processed_cons_of_exit (h : isKeyword .exit line = true) :
    processed (line :: lines) = [] := by
  simp [processed, h]

theorem processed_cons (h : isKeyword .exit line = false) :
    processed (line :: lines) = line :: processed lines := by
  simp [processed, h]

theorem exits_cons_of_exit (h : isKeyword .exit line = true) : exits (line :: lines) = true := by
  simp [exits, h]

theorem exits_cons (h : isKeyword .exit line = false) : exits (line :: lines) = exits lines := by
  simp [exits, h]

end Cons

/-- No line that is replied to says `exit`. -/
theorem not_exit_of_mem_processed {lines : List Bytes} {line : Bytes} (h : line ∈ processed lines) :
    isKeyword .exit line = false := by
  simpa using List.mem_takeWhile_imp h

theorem exchange_cons (earlier : List Bytes) (line : Bytes) (lines : List Bytes) :
    exchange earlier (line :: lines) =
      prompt ++ replyTo earlier line ++ exchange (earlier ++ [line]) lines := by
  simp [exchange, List.mapIdx_cons]

theorem acceptedIn_append_singleton (earlier : List Bytes) (line : Bytes) :
    acceptedIn (earlier ++ [line]) = acceptedIn earlier ++ (accepted? line).toList := by
  rw [acceptedIn, List.filterMap_append, List.filterMap_cons]
  cases accepted? line <;> rfl

/-! ## One line -/

/-- Evaluating a line appends its record, if it has one. -/
theorem toList_evaluate (calculator : Calculator) (line : Bytes) :
    (calculator.evaluate (Utf8.decodeLossy line)).calculator.ledger.toList =
      calculator.ledger.toList ++ (accepted? line).toList := by
  rw [accepted?_eq, Calculator.toList_evaluate]

theorem printed_print (text : Text) : printed [.print text] = Utf8.encode text :=
  List.append_nil _

/-- A line other than `exit` is replied to, and only a listing depends on the ledger. -/
theorem exists_reply (calculator : Calculator) {line : Bytes} (h : isKeyword .exit line = false) :
    let evaluation := calculator.evaluate (Utf8.decodeLossy line)
    ∃ acts, reply evaluation.calculator.ledger evaluation.outcome = some acts ∧
      printed acts = Utf8.encode
        (if isKeyword .history line then listing calculator.ledger.toList else lineReply line) := by
  have hkey : ∀ {k : Keyword}, isKeyword k line = true ↔ _ := isKeyword_iff
  unfold Calculator.evaluate lineReply
  cases hread : Entry.read (Utf8.decodeLossy line) with
  | error error =>
    rw [if_neg (by simp [hkey, hread])]
    exact ⟨_, rfl, printed_print (errorReply error)⟩
  | ok entry =>
    cases entry with
    | keyword k =>
      cases k with
      | exit => exact absurd (h.symm.trans (hkey.2 hread)) Bool.false_ne_true
      | history =>
        rw [if_pos (hkey.2 hread)]
        exact ⟨_, rfl, printed_print _⟩
    | expression e =>
      rw [if_neg (by simp [hkey, hread])]
      simp only [Calculator.evaluateExpression]
      cases e.evaluate with
      | ok result => exact ⟨_, rfl, printed_print (resultReply result)⟩
      | error error => exact ⟨_, rfl, printed_print (errorReply error)⟩

theorem turn_exit (calculator : Calculator) {line : Bytes} (h : isKeyword .exit line = true) :
    turn calculator line = ⟨[], calculator, false⟩ := by
  simp only [turn, Calculator.evaluate, isKeyword_iff.1 h, reply, List.map_nil]

/-- What a line other than `exit` does: it prints its reply and adds its record, if it has one. -/
theorem turn_of_not_exit (calculator : Calculator) {earlier : List Bytes} {line : Bytes}
    (h : isKeyword .exit line = false) (hledger : calculator.ledger.toList = acceptedIn earlier) :
    (turn calculator line).goesOn = true ∧
      printed (turn calculator line).acts = Utf8.encode (replyTo earlier line) ∧
      (turn calculator line).calculator.ledger.toList = acceptedIn (earlier ++ [line]) := by
  obtain ⟨acts, hreply, hprinted⟩ := exists_reply calculator h
  have hrecords := toList_evaluate calculator line
  simp only [turn, hreply, true_and]
  constructor
  · rw [printed_append, printed_logs, List.nil_append, hprinted, hledger, replyTo]
  · rw [hrecords, hledger, acceptedIn_append_singleton]

/-! ## Many lines -/

/-- A session up to its save, behind some earlier lines: what it has printed and recorded where the
lines end or one says `exit`. -/
theorem run_lines (last : List Act) (lines : List Bytes) {calculator : Calculator}
    {earlier : List Bytes} (hledger : calculator.ledger.toList = acceptedIn earlier) :
    printed (run last calculator lines).acts =
        Utf8.encode (exchange earlier (processed lines) ++ prompt) ++
          (if exits lines then [] else printed last) ∧
      (run last calculator lines).ledger.toList = acceptedIn (earlier ++ processed lines) := by
  induction lines generalizing calculator earlier with
  | nil =>
    rw [run, printed_cons, processed, List.takeWhile_nil, List.append_nil]
    exact ⟨rfl, hledger⟩
  | cons line lines ih =>
    cases hexit : isKeyword .exit line with
    | true =>
      rw [run, turn_exit calculator hexit, processed_cons_of_exit lines hexit,
        exits_cons_of_exit lines hexit, List.append_nil]
      exact ⟨rfl, hledger⟩
    | false =>
      obtain ⟨hgoesOn, hreply, hrecords⟩ := turn_of_not_exit calculator hexit hledger
      -- The lines behind this one find the ledger that it leaves, and it among the earlier lines.
      obtain ⟨hprinted, hlist⟩ := ih hrecords
      rw [List.append_assoc] at hlist
      rw [run, if_pos hgoesOn, processed_cons lines hexit, exits_cons lines hexit, exchange_cons]
      refine ⟨?_, hlist⟩
      simp only [printed_cons, printed_append, List.cons_append, hreply, hprinted,
        Utf8.encode_append, List.append_assoc]
      rfl

theorem printed_savedActs (path : Text) (count : Nat) :
    printed (savedActs path count) = Utf8.encode (savedLine path) :=
  printed_print (savedLine path)

theorem printed_closing (lost : Bytes) (ending : Ending) :
    printed (closing lost ending) = Utf8.encode ['\n'] := by
  cases ending <;> rfl

/-- The script of a session prints its dialogue and ends with its accepted lines. -/
theorem script_lines {input : Bytes} {bodies : List Bytes} {tail : Bytes}
    (hcut : CutsInto input bodies tail) (ending : Ending) :
    printed (script input ending).acts = Utf8.encode (dialogue (linesOf bodies tail ending)) ∧
      (script input ending).ledger.toList =
        acceptedIn (processed (linesOf bodies tail ending)) := by
  rw [script, heard_eq hcut]
  have hledger : Calculator.new.ledger.toList = acceptedIn [] := rfl
  obtain ⟨hprinted, hlist⟩ := run_lines (closing (lost input ending) ending)
    (linesOf bodies tail ending) hledger
  refine ⟨?_, hlist⟩
  rw [hprinted, printed_closing, dialogue]
  split <;> simp only [Utf8.encode_append, List.append_nil]

/-! ## Sessions -/

/-- A session with the room for all that it says and a save that succeeds. -/
theorem execute_of_save {dir : Text} {request : Request} {tree : FileTree} {path : Text}
    {text : Text} {records : List Record}
    (hprinted : printed (script request.input request.ending).acts = Utf8.encode text)
    (hlist : (script request.input request.ending).ledger.toList = records)
    (hsave : request.tree.save dir records request.now = (tree, .ok path))
    (hroom : request.room.Takes (Utf8.encode (text ++ savedLine path))) :
    (execute dir request).output = Utf8.encode (text ++ savedLine path) ∧
      (execute dir request).tree = tree ∧ (execute dir request).result = .ok () := by
  rw [Utf8.encode_append] at hroom ⊢
  obtain ⟨room, hwrite, -⟩ := (request.room.takes_append _ _).1 hroom
  rw [← hprinted] at hroom hwrite ⊢
  obtain ⟨houtput, room', houtcome, hmore⟩ := output_playActs ⟨room, hwrite⟩
  have hlast := hmore _ hroom
  rw [← printed_savedActs path (script request.input request.ending).ledger.size] at hlast ⊢
  obtain ⟨hsaved, last, hend, -⟩ := output_playActs hlast
  simp only [execute, houtcome, finish, hlist, hsave, houtput, hsaved, Played.result, hend,
    true_and]

/-- Lines behind an `exit` are not run, nor is it seen how the input ends. -/
theorem run_append_of_exits {lines : List Bytes} (h : exits lines = true)
    (last last' : List Act) (calculator : Calculator) (rest rest' : List Bytes) :
    run last calculator (lines ++ rest) = run last' calculator (lines ++ rest') := by
  induction lines generalizing calculator with
  | nil => cases h
  | cons line lines ih =>
    rw [List.cons_append, List.cons_append, run, run]
    cases hexit : isKeyword .exit line with
    | true => rw [turn_exit calculator hexit]; rfl
    | false =>
      rw [exits_cons lines hexit] at h
      rw [ih h]

/-- The script of a session depends on no byte behind a line that says `exit`. -/
theorem script_append_of_exits {bodies : List Bytes} (hbody : ∀ body ∈ bodies, lineFeed ∉ body)
    (h : exits (bodies.map (· ++ [lineFeed])) = true) (rest rest' : Bytes)
    (ending ending' : Ending) :
    script (bodies.flatMap (· ++ [lineFeed]) ++ rest) ending =
      script (bodies.flatMap (· ++ [lineFeed]) ++ rest') ending' := by
  rw [script, script, heard_append hbody, heard_append hbody]
  exact run_append_of_exits h _ _ _ _ _

/-- Requests with one script are answered alike but for the bytes left unread. -/
theorem execute_congr {request : Request} {input : Bytes} {ending : Ending} (dir : Text)
    (h : script input ending = script request.input request.ending) :
    ∃ unread, execute dir { request with input, ending } =
      { execute dir request with unread } := by
  simp only [execute, h]
  cases (playActs request.room (script request.input request.ending).acts).outcome with
  | error reason => exact ⟨_, rfl⟩
  | ok room =>
    simp only [finish]
    split
    · exact ⟨_, rfl⟩
    · exact ⟨_, rfl⟩

/-- The transcript law, for the one cut of an input into lines (`exists_cutsInto`). Where the save
succeeds,
1. the session succeeds, and its output is a prompt and a reply for each line before the first
   `exit`, a last prompt, a line break unless there was an `exit`, and the line of the save;
2. a reply to a line that is no keyword is one line of text and depends on that line alone;
3. a `history` line lists the lines accepted before it in their order, one line each, or says that
   there are none, so a listing that is not empty is the front of each later one;
4. what is behind an `exit`, and how the input ends, changes nothing but the bytes left unread. -/
theorem execute_transcript {dir : Text} {request : Request} {bodies : List Bytes} {tail : Bytes}
    {tree : FileTree} {path : Text} (hcut : CutsInto request.input bodies tail)
    (hsave : request.tree.save dir (acceptedIn (processed (linesOf bodies tail request.ending)))
      request.now = (tree, .ok path))
    (hroom : request.room.Takes (Utf8.encode
      (dialogue (linesOf bodies tail request.ending) ++ savedLine path))) :
    let lines := linesOf bodies tail request.ending
    (execute dir request).result = .ok () ∧
      (execute dir request).output = Utf8.encode
        (exchange [] (processed lines) ++ prompt ++ (if exits lines then [] else ['\n']) ++
          savedLine path) ∧
      (∀ line, isKeyword .history line = false → isKeyword .exit line = false →
        ∃ reply, IsLine reply ∧ ∀ earlier, replyTo earlier line = reply) ∧
      (∀ line, isKeyword .history line = true → ∀ earlier,
        replyTo earlier line =
          if acceptedIn earlier = [] then "No calculations yet.\n".toList
          else ((acceptedIn earlier).mapIdx fun i record => listingLine (i + 1) record).flatten) ∧
      (∀ number record, IsLine (listingLine number record)) ∧
      (∀ line line', isKeyword .history line = true → isKeyword .history line' = true →
        ∀ earlier later, acceptedIn earlier ≠ [] →
          replyTo earlier line <+: replyTo (earlier ++ later) line') ∧
      ∀ (whole : List Bytes) (rest rest' : Bytes) (ending : Ending),
        request.input = whole.flatMap (· ++ [lineFeed]) ++ rest →
        (∀ body ∈ whole, lineFeed ∉ body) → exits (whole.map (· ++ [lineFeed])) = true →
          ∃ unread, execute dir
              { request with input := whole.flatMap (· ++ [lineFeed]) ++ rest', ending } =
            { execute dir request with unread } := by
  intro lines
  obtain ⟨hprinted, hlist⟩ := script_lines hcut request.ending
  obtain ⟨houtput, -, hresult⟩ := execute_of_save hprinted hlist hsave hroom
  refine ⟨hresult, houtput, ?_, ?_, isLine_listingLine, ?_, ?_⟩
  · intro line hhistory hexit
    exact ⟨lineReply line, isLine_lineReply hhistory hexit, replyTo_of_not_history hhistory⟩
  · intro line hhistory earlier
    rw [replyTo, if_pos hhistory, listing_eq]
  · intro line line' hhistory hhistory' earlier later hne
    rw [replyTo, replyTo, if_pos hhistory, if_pos hhistory', acceptedIn, acceptedIn,
      List.filterMap_append]
    exact listing_prefix hne _
  · intro whole rest rest' ending hinput hbody hexits
    refine execute_congr dir ?_
    rw [hinput]
    exact script_append_of_exits hbody hexits rest' rest ending request.ending

/-- A computation, a listing, a word that says nothing, an `exit`, and what is behind it. -/
theorem execute_transcript_exit :
    let request : Request :=
      ⟨Utf8.encode "1 + 2\nhistory\nx\nexit\n3 * 4".toList, .finished, .unlimited,
        .new ["home".toList], ⟨⟨2024, 2, 29, 23, 59, 8, 0⟩, by decide⟩⟩
    (execute "csv_history".toList request).output = Utf8.encode
      (prompt ++ "Result: 3.0\n".toList ++ prompt ++ "  1. 1.0 + 2.0 = 3.0\n".toList ++ prompt ++
        errorReply (.invalidFormat 1) ++ prompt ++
        "History saved to csv_history/calculator_history_290224235908.csv\n".toList) := by
  intro request
  let bodies := ["1 + 2", "history", "x", "exit"].map fun line => Utf8.encode line.toList
  let tail := Utf8.encode "3 * 4".toList
  let saved := request.tree.save "csv_history".toList
    (acceptedIn (processed (linesOf bodies tail .finished))) request.now
  have hcut : CutsInto request.input bodies tail := by decide +kernel
  have hpath : saved.2 = .ok "csv_history/calculator_history_290224235908.csv".toList := by
    decide +kernel
  rw [(execute_transcript hcut (Prod.ext rfl hpath) (Room.takes_unlimited _)).2.1]
  decide +kernel

end Abacus.Session
