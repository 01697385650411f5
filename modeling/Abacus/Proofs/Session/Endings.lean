import Abacus.Proofs.Session.Transcript
import Abacus.Proofs.Text.Lossy
import Abacus.Proofs.Text.Spaced
import Abacus.Proofs.Text.Split
import Mathlib.Data.List.DropRight
import Mathlib.Data.List.Forall2

/-!
# How inputs end

Lines of the same words are run alike: `turn_congr` says it of one line and `run_congr` of all
lines of a session. A line feed behind a line is a blank, so it adds no word. `execute_endings`
compares a session that is broken off with one that ends at its last line feed, and a session whose
last line is unfinished with one where that line has its line feed.
-/

namespace Abacus

/-- Two responses show the same: what they put out, what they leave in the tree, and how they end. -/
structure Response.Alike (first second : Response) : Prop where
  output : first.output = second.output
  tree : first.tree = second.tree
  result : first.result = second.result

/-- Texts of the same words have the same outcome and leave the same calculator. -/
theorem Calculator.evaluate_congr (calculator : Calculator) {line line' : Text}
    (h : words line = words line') :
    (calculator.evaluate line).outcome = (calculator.evaluate line').outcome ∧
      (calculator.evaluate line).calculator = (calculator.evaluate line').calculator := by
  have hread : Entry.read line = Entry.read line' := congrArg Entry.ofWords h
  rw [evaluate, evaluate, hread]
  split
  · exact ⟨rfl, rfl⟩
  · exact ⟨rfl, rfl⟩
  · exact ⟨rfl, rfl⟩

namespace Session

/-- Two lines say the same words. -/
def SameWords (line line' : Bytes) : Prop :=
  words (Utf8.decodeLossy line) = words (Utf8.decodeLossy line')

theorem forall₂_sameWords (lines : List Bytes) : List.Forall₂ SameWords lines lines :=
  List.forall₂_same.2 fun _ _ => rfl

theorem sameWords_append_lineFeed (line : Bytes) : SameWords line (line ++ [lineFeed]) := by
  have hblank : AllBlank ['\n'] := List.forall_mem_singleton.2 isBlank_newline
  have hwords := words_around (fun _ h => absurd h List.not_mem_nil) hblank
    (Utf8.decodeLossy line)
  rw [SameWords, Utf8.decodeLossy_append_lineFeed]
  exact hwords.symm

/-! ## Runs of lines with the same words -/

/-- Lines of the same words have the same turn, but for what it logs. -/
theorem turn_congr (calculator : Calculator) {line line' : Bytes} (h : SameWords line line') :
    printed (turn calculator line).acts = printed (turn calculator line').acts ∧
      (turn calculator line).calculator = (turn calculator line').calculator ∧
      (turn calculator line).goesOn = (turn calculator line').goesOn := by
  obtain ⟨houtcome, hcalculator⟩ := calculator.evaluate_congr h
  simp only [turn, houtcome, hcalculator]
  split
  · simp only [printed_append, printed_logs, and_self]
  · simp only [printed_logs, and_self]

/-- Lines of the same words are run alike, whatever is done where they end, if that prints the
same. -/
theorem run_congr {lines lines' : List Bytes} (h : List.Forall₂ SameWords lines lines')
    {last last' : List Act} (hlast : printed last = printed last') (calculator : Calculator) :
    printed (run last calculator lines).acts = printed (run last' calculator lines').acts ∧
      (run last calculator lines).ledger = (run last' calculator lines').ledger := by
  induction h generalizing calculator with
  | nil => exact ⟨by rw [run, run, printed_cons, printed_cons, hlast], rfl⟩
  | cons hline _ ih =>
    obtain ⟨hprinted, hcalculator, hgoesOn⟩ := turn_congr calculator hline
    rw [run, run, hgoesOn, hcalculator]
    split
    · obtain ⟨hrest, hledger⟩ := ih (turn calculator _).calculator
      refine ⟨?_, hledger⟩
      simp only [List.cons_append, printed_cons, printed_append, hprinted, hrest]
      rfl
    · refine ⟨?_, rfl⟩
      simp only [printed_cons, hprinted]
      rfl

theorem script_congr {input input' : Bytes} {ending ending' : Ending}
    (h : List.Forall₂ SameWords (heard input ending) (heard input' ending')) :
    printed (script input ending).acts = printed (script input' ending').acts ∧
      (script input ending).ledger = (script input' ending').ledger := by
  refine run_congr h ?_ .new
  rw [printed_closing, printed_closing]

/-- Inputs whose lines have the same words are answered alike. -/
theorem execute_alike (dir : Text) (request : Request) {input input' : Bytes}
    {ending ending' : Ending}
    (h : List.Forall₂ SameWords (heard input ending) (heard input' ending')) :
    (execute dir { request with input := input, ending := ending }).Alike
      (execute dir { request with input := input', ending := ending' }) := by
  obtain ⟨hprinted, hledger⟩ := script_congr h
  obtain ⟨houtput, houtcome⟩ := playActs_congr hprinted request.room
  simp only [execute, houtcome, hledger]
  cases (playActs request.room (script input' ending').acts).outcome with
  | error reason =>
    refine ⟨houtput, rfl, ?_⟩
    simp only [Played.response, Played.result, houtcome]
  | ok room =>
    simp only [finish, houtput]
    split
    · exact ⟨rfl, rfl, rfl⟩
    · exact ⟨rfl, rfl, rfl⟩

/-! ## Ends -/

/-- An input up to its last line feed. -/
def wholeLines (input : Bytes) : Bytes :=
  input.rdropWhile (· ≠ lineFeed)

theorem wholeLines_eq {input : Bytes} {bodies : List Bytes} {tail : Bytes}
    (h : CutsInto input bodies tail) : wholeLines input = bodies.flatMap (· ++ [lineFeed]) := by
  have htail : ∀ b ∈ tail.reverse, decide (b ≠ lineFeed) = true := by
    intro b hb
    refine decide_eq_true fun hfeed => h.tail ?_
    rwa [← hfeed, ← List.mem_reverse]
  rw [wholeLines, h.whole, List.rdropWhile, List.reverse_append, List.dropWhile_append_of_pos htail]
  refine List.rdropWhile_eq_self_iff.2 fun hne => ?_
  have hbodies : bodies ≠ [] := by
    rintro rfl
    exact hne rfl
  have hlast : (bodies.flatMap (· ++ [lineFeed])).getLast? = some lineFeed :=
    getLast?_flatMap hbodies
  rw [List.getLast?_eq_some_getLast hne, Option.some_inj] at hlast
  simp [hlast]

/-- How an input ends matters for its unfinished line alone.
1. A session that is broken off does what it does on the input up to its last line feed.
2. Where the input does not end with a line feed, it makes no difference if it has one more. -/
theorem execute_endings (dir : Text) (request : Request) (reason : Text) :
    let session := fun input ending => execute dir { request with input := input, ending := ending }
    (∀ input, (session input (.broken reason)).Alike (session (wholeLines input) .finished)) ∧
      ∀ input, input ≠ [] → input.getLast? ≠ some lineFeed →
        (session input .finished).Alike (session (input ++ [lineFeed]) .finished) := by
  intro session
  refine ⟨fun input => ?_, fun input hne hlast => ?_⟩
  · obtain ⟨bodies, tail, hcut⟩ := exists_cutsInto input
    have hwhole : CutsInto (wholeLines input) bodies [] :=
      ⟨by rw [wholeLines_eq hcut, List.append_nil], hcut.body, List.not_mem_nil⟩
    refine execute_alike dir request ?_
    rw [heard_eq hcut, heard_eq hwhole, linesOf, linesOf, if_pos rfl, List.append_nil]
    exact forall₂_sameWords _
  · obtain ⟨bodies, tail, hcut⟩ := exists_cutsInto input
    have htail : tail ≠ [] := by
      rintro rfl
      have hwhole := hcut.whole
      rw [List.append_nil] at hwhole
      refine hlast ?_
      rw [hwhole]
      refine getLast?_flatMap ?_
      rintro rfl
      exact hne hwhole
    have hcut' : CutsInto (input ++ [lineFeed]) (bodies ++ [tail]) [] := by
      refine ⟨by simp [hcut.whole], ?_, List.not_mem_nil⟩
      intro body hmem
      rcases List.mem_append.1 hmem with hmem | hmem
      · exact hcut.body body hmem
      · rw [List.mem_singleton.1 hmem]
        exact hcut.tail
    refine execute_alike dir request ?_
    rw [heard_eq hcut, heard_eq hcut', linesOf, linesOf, if_neg htail, if_pos rfl, List.append_nil,
      List.map_append]
    refine List.rel_append (forall₂_sameWords _) ?_
    exact .cons (sameWords_append_lineFeed tail) .nil

/-- An `exit` that is the unfinished last line: it is obeyed where the input ends, and lost where the
input is broken off. The output fails within the line about the save. -/
theorem execute_endings_unfinished :
    let request : Request :=
      ⟨[], .finished, .limited 130 "closed".toList, .new ["home".toList],
        ⟨⟨2024, 2, 29, 23, 59, 8, 0⟩, by decide⟩⟩
    let session := fun input ending =>
      execute "csv_history".toList { request with input := input, ending := ending }
    let input := Utf8.encode "1 + 2\nexit".toList
    input ≠ [] ∧ input.getLast? ≠ some lineFeed ∧
      (session input .finished).Alike (session (input ++ [lineFeed]) .finished) ∧
      (session input (.broken "gone".toList)).Alike (session (wholeLines input) .finished) ∧
      (session input .finished).output ≠ (session (wholeLines input) .finished).output := by
  intro request session input
  have hne : input ≠ [] := by decide +kernel
  have hlast : input.getLast? ≠ some lineFeed := by decide +kernel
  obtain ⟨hbroken, hfinished⟩ :=
    execute_endings "csv_history".toList request "gone".toList
  exact ⟨hne, hlast, hfinished input hne hlast, hbroken input, by decide +kernel⟩

end Session

end Abacus
