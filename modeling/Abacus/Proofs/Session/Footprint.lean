import Abacus.Proofs.FileTree.Footprint
import Abacus.Proofs.Session.Limited

/-!
# What a command may touch

Of the built-in commands only a session changes the file tree, and only by its save
(`Registry.tree_used_builtIn`). So a command adds at most one file, in the directory of histories,
and what decides its path is the base path and the moment: `Registry.execute_footprint`.
-/

namespace Abacus

/-- A session saves its ledger or leaves the tree as it is. -/
theorem Session.tree_execute (dir : Text) (request : Request) :
    (execute dir request).tree = request.tree ∨
      (execute dir request).tree = (saving dir request).1 := by
  simp only [execute]
  split
  · exact .inl rfl
  · right
    unfold finish saving
    split
    · next hsave => rw [hsave]
    · next hsave => rw [hsave]

namespace Registry

/-- A built-in command is a session that saves its ledger, or it leaves the tree as it is. -/
theorem tree_execute_builtIn (config : Config) (text : Text) (request : Request) :
    ((builtIn config).execute text request).tree = request.tree ∨
      CommandName.ofText? text = some .calculator ∧
        ((builtIn config).execute text request).tree =
          (Session.saving config.historyDir request).1 := by
  cases htext : CommandName.ofText? text with
  | none =>
    rw [execute_of_unknown request htext]
    exact .inl rfl
  | some name =>
    cases name with
    | calculator =>
      obtain ⟨-, htree, -⟩ := Session.execute_builtIn config htext request
      rw [htree]
      exact (Session.tree_execute config.historyDir request).imp_right fun h => ⟨rfl, h⟩
    | menu =>
      rw [execute_of_registered request htext (find_builtIn_menu config)]
      exact .inl rfl

/-- The same of a registry that has executed commands. -/
theorem tree_used_builtIn (config : Config) (earlier : List (Text × Request)) (text : Text)
    (request : Request) :
    (((builtIn config).used earlier).execute text request).tree = request.tree ∨
      CommandName.ofText? text = some .calculator ∧
        (((builtIn config).used earlier).execute text request).tree =
          (Session.saving config.historyDir request).1 := by
  rw [(agrees_execute_used (isKeyed_builtIn config) (keepsNothing_builtIn config) earlier text
    request).tree]
  exact tree_execute_builtIn config text request

/-- A file that a command leaves behind, and that was not there as it is, is the history of the
session, where the path leads once the directory is made. -/
theorem placeOf?_of_file?_used {config : Config} {earlier : List (Text × Request)} {text : Text}
    {request : Request} {place : Place} {content : Bytes}
    (hold : request.tree.file? place ≠ some content)
    (hnew : (((builtIn config).used earlier).execute text request).tree.file? place =
      some content) :
    content = History.bytes (Session.script request.input request.ending).ledger.toList ∧
      (request.tree.createDirectories config.historyDir).1.placeOf?
        (savePath config.historyDir request.now) = some place := by
  rcases tree_used_builtIn config earlier text request with htree | ⟨-, htree⟩
  · rw [htree] at hnew
    exact absurd hnew hold
  · rw [htree] at hnew
    exact FileTree.placeOf?_of_file?_save hold hnew

/-- What a built-in command may touch, after any commands and whatever it finds:
1. a text that does not name the session leaves the tree as it is;
2. whatever there was stays as it was; at most one file is new, its path is that of the moment in
   the directory of histories, and it is directly in that directory; what else is new are
   directories on the way there;
3. where two commands that find the same tree at the same moment leave new files, these are at the
   same place, whatever else the two are given. -/
theorem execute_footprint (config : Config) (earlier : List (Text × Request)) (text : Text)
    (request : Request) :
    let execution := ((builtIn config).used earlier).execute text request
    (CommandName.ofText? text ≠ some .calculator → execution.tree = request.tree) ∧
      (∃ added, FileTree.Footprint request.tree execution.tree
        (Path.join config.basePath "csv_history".toList) request.now.fileName added) ∧
      ∀ (earlier' : List (Text × Request)) (text' : Text) (request' : Request),
        request'.tree = request.tree → request'.now = request.now →
        let execution' := ((builtIn config).used earlier').execute text' request'
        ∀ place content place' content', request.tree.file? place ≠ some content →
          execution.tree.file? place = some content → request.tree.file? place' ≠ some content' →
          execution'.tree.file? place' = some content' → place = place' := by
  intro execution
  have htree := tree_used_builtIn config earlier text request
  refine ⟨fun htext => ?_, ?_, fun earlier' text' request' htree' hnow => ?_⟩
  · rcases htree with htree | ⟨hname, -⟩
    · exact htree
    · exact absurd hname htext
  · rcases htree with htree | ⟨-, htree⟩
    · exact ⟨[], htree ▸ FileTree.footprint_refl request.tree _ _⟩
    · obtain ⟨added, hadded⟩ := FileTree.exists_footprint_save request.tree config.historyDir
        (Session.script request.input request.ending).ledger.toList request.now
      exact ⟨added, htree ▸ hadded⟩
  · intro execution' place content place' content' hold hnew hold' hnew'
    obtain ⟨-, hplace⟩ := placeOf?_of_file?_used hold hnew
    obtain ⟨-, hplace'⟩ := placeOf?_of_file?_used (htree' ▸ hold') hnew'
    rw [htree', hnow] at hplace'
    exact Option.some.inj (hplace.symm.trans hplace')

/-- Two sessions of one moment, on a base path that goes up and down again, leave different
histories at one place; the menu leaves nothing. -/
theorem execute_footprint_twice :
    let request : Text → Request := fun text =>
      ⟨Utf8.encode text, .finished, .unlimited, .new ["home".toList],
        ⟨⟨2024, 2, 29, 23, 59, 8, 0⟩, by decide⟩⟩
    let run := fun name text : String =>
      (builtIn ⟨"../home/data/".toList, .standard⟩).execute name.toList (request text.toList)
    (run "menu" "1 + 2").tree = (request "1 + 2".toList).tree ∧
      ∃ place content content', (run "calculator" "1 + 2").tree.file? place = some content ∧
        (run "calculator" "exit").tree.file? place = some content' ∧ content ≠ content' := by
  intro request run
  let config : Config := ⟨"../home/data/".toList, .standard⟩
  let newest : FileTree → Place := fun tree => (tree.nodes.getLast?.map Prod.fst).getD []
  let place := newest (run "calculator" "1 + 2").tree
  let place' := newest (run "calculator" "exit").tree
  let content := Utf8.encode "operand1,operation,operand2,result\n1.0,+,2.0,3.0\n".toList
  let content' := Utf8.encode "operand1,operation,operand2,result\n".toList
  have hnew : (run "calculator" "1 + 2").tree.file? place = some content := by decide +kernel
  have hnew' : (run "calculator" "exit").tree.file? place' = some content' := by decide +kernel
  obtain ⟨hmenu, -⟩ := execute_footprint config [] "menu".toList (request "1 + 2".toList)
  obtain ⟨-, -, hplaces⟩ := execute_footprint config [] "calculator".toList (request "1 + 2".toList)
  have hsame : place = place' := hplaces [] "calculator".toList (request "exit".toList) rfl rfl
    place content place' content' (by decide +kernel) hnew (by decide +kernel) hnew'
  exact ⟨hmenu (by decide), place, content, content', hnew, hsame ▸ hnew', by decide +kernel⟩

end Registry

end Abacus
