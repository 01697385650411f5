import Abacus.Proofs.FileTree.Creation
import Abacus.Proofs.History.RoundTrip
import Abacus.Proofs.Session.Transcript

/-!
# Saved sessions

What a session leaves behind is one new file, and reading that file gives the records of the
accepted lines: `execute_saves` joins the run of a session, the tree behind its save and the round
trip of its history.
-/

namespace Abacus.Session

/-- A line is refused by its arithmetic exactly if it divides by a zero. -/
theorem accepted?_eq_none_iff {line : Bytes} {e : Expression}
    (h : Entry.read (Utf8.decodeLossy line) = .ok (.expression e)) :
    accepted? line = none ↔ e.operator = .divide ∧ e.right.isZero = true := by
  rw [accepted?, h, Option.map_eq_none_iff, Operator.apply_eq_none_iff]

/-- Sessions are saved whole. Where the save succeeds,
1. the session succeeds, the path is that of the moment below the base path, and the output is the
   dialogue of the lines and the path;
2. the path leads to a file where there was nothing, no other file is new or changed, and nothing
   that was there is lost;
3. the file reads back as the records of the accepted lines before the first `exit`, in their order;
4. a line is accepted exactly if it says an expression that divides by no zero, and its record
   holds that expression and the value that is replied to it. -/
theorem execute_saves {config : Config} {request : Request} {bodies : List Bytes} {tail : Bytes}
    {tree : FileTree} {path : Text} (hcut : CutsInto request.input bodies tail)
    (hsave : request.tree.save config.historyDir
      (acceptedIn (processed (linesOf bodies tail request.ending))) request.now = (tree, .ok path))
    (hroom : request.room.Takes (Utf8.encode
      (dialogue (linesOf bodies tail request.ending) ++ savedLine path))) :
    let lines := linesOf bodies tail request.ending
    let response := execute config.historyDir request
    response.result = .ok () ∧
      path = Path.join (Path.join config.basePath "csv_history".toList) request.now.fileName ∧
      response.output = Utf8.encode (dialogue lines ++ savedLine path) ∧
      (∃ place content, response.tree.placeOf? path = some place ∧
        FileTree.AddsFile request.tree response.tree place content ∧
        History.read content .finished = .ok ((processed lines).filterMap accepted?)) ∧
      (∀ line e, Entry.read (Utf8.decodeLossy line) = .ok (.expression e) →
        (accepted? line = none ↔ e.operator = .divide ∧ e.right.isZero = true)) ∧
      ∀ line record, accepted? line = some record →
        Entry.read (Utf8.decodeLossy line) = .ok (.expression record.expression) ∧
          record.operator.apply record.left record.right = some record.result ∧
          lineReply line = resultReply record.result := by
  intro lines response
  obtain ⟨hprinted, hlist⟩ := script_lines hcut request.ending
  obtain ⟨houtput, htree, hresult⟩ := execute_of_save hprinted hlist hsave hroom
  obtain ⟨hpath, place, hplace, hadds⟩ := FileTree.addsFile_save hsave
  refine ⟨hresult, hpath, houtput, ⟨place, _, ?_, ?_, History.read_bytes_eq_ok _⟩, ?_, ?_⟩
  · rw [htree, hplace]
  · rw [htree]
    exact hadds
  · exact fun line e => accepted?_eq_none_iff
  · intro line record haccepted
    obtain ⟨hread, happly⟩ := accepted?_eq_some_iff.1 haccepted
    exact ⟨hread, happly, lineReply_of_accepted haccepted⟩

/-- A zero divisor, a negative zero, a byte that is no text, and a line that is broken off. -/
theorem execute_saves_broken :
    let input := Utf8.encode "1 / 3\n0 / 0\n-0 * 2\r\n".toList ++ [0xFF, lineFeed] ++
      Utf8.encode "5 - 2".toList
    let request : Request :=
      ⟨input, .broken "gone".toList, .unlimited, .new ["home".toList],
        ⟨⟨2024, 2, 29, 23, 59, 8, 0⟩, by decide⟩⟩
    ∃ place content records, FileTree.AddsFile request.tree
        (execute "data/csv_history".toList request).tree place content ∧
      History.read content .finished = .ok records ∧ records.map Record.listing =
        ["1.0 / 3.0 = 0.3333333333333333".toList, "-0.0 * 2.0 = -0.0".toList] := by
  intro input request
  let config : Config := ⟨"data".toList, .standard⟩
  let bodies := ["1 / 3", "0 / 0", "-0 * 2\r"].map (fun line => Utf8.encode line.toList) ++ [[0xFF]]
  let tail := Utf8.encode "5 - 2".toList
  let records := acceptedIn (processed (linesOf bodies tail request.ending))
  have hcut : CutsInto request.input bodies tail := by decide +kernel
  have hpath : (request.tree.save config.historyDir records request.now).2 =
      .ok "data/csv_history/calculator_history_290224235908.csv".toList := by decide +kernel
  obtain ⟨-, -, -, ⟨place, content, -, hadds, hread⟩, -⟩ :=
    execute_saves hcut (Prod.ext rfl hpath) (Room.takes_unlimited _)
  have hdir : config.historyDir = "data/csv_history".toList := by decide +kernel
  rw [hdir] at hadds
  exact ⟨place, content, records, hadds, hread, by decide +kernel⟩

end Abacus.Session
