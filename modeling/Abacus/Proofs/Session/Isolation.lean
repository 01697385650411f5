import Abacus.Proofs.History.RoundTrip
import Abacus.Proofs.Session.Footprint

/-!
# Sessions on their own

A command does on a built-in registry that has executed others what it does on a new one, and a
file that it leaves behind holds what its own input says: `Registry.execute_isolated`.
-/

namespace Abacus

open Session

theorem Session.mem_linesOf_of_mem_processed {lines : List Bytes} {record : Record}
    (h : record ∈ acceptedIn (processed lines)) : ∃ line ∈ lines, accepted? line = some record := by
  obtain ⟨line, hline, haccepted⟩ := List.mem_filterMap.1 h
  exact ⟨line, (List.takeWhile_sublist _).subset hline, haccepted⟩

namespace Registry

/-- Sessions do not leak into each other. After any commands, with any inputs, endings, outputs,
trees and moments, and however they ended,
1. a command does the same as on a new registry, but for the registry that it leaves;
2. a file that it leaves, and that was not there as it is, reads back as the records of the accepted
   lines of its own input, each of which is the record of one of these lines. -/
theorem execute_isolated (config : Config) (earlier : List (Text × Request)) (text : Text)
    (request : Request) :
    let execution := ((builtIn config).used earlier).execute text request
    execution.Agrees ((builtIn config).execute text request) ∧
      ∀ place content, request.tree.file? place ≠ some content →
        execution.tree.file? place = some content →
        ∀ bodies tail, CutsInto request.input bodies tail →
          let lines := linesOf bodies tail request.ending
          ∃ records, History.read content .finished = .ok records ∧
            records = acceptedIn (processed lines) ∧
            ∀ record ∈ records, ∃ line ∈ lines, accepted? line = some record := by
  intro execution
  refine ⟨agrees_execute_used (isKeyed_builtIn config) (keepsNothing_builtIn config) _ _ _,
    fun place content hold hnew bodies tail hcut => ?_⟩
  obtain ⟨rfl, -⟩ := placeOf?_of_file?_used hold hnew
  rw [(script_lines hcut request.ending).2]
  exact ⟨_, History.read_bytes_eq_ok _, rfl, fun record => mem_linesOf_of_mem_processed⟩

/-- A session that fails within its second prompt has a record, which the next one does not save. -/
theorem execute_isolated_behind_failure :
    let request : Text → Room → Request := fun text room =>
      ⟨Utf8.encode text, .finished, room, .new ["home".toList],
        ⟨⟨2024, 2, 29, 23, 59, 8, 0⟩, by decide⟩⟩
    let first := request "1 + 2\n".toList (.limited 70 "closed".toList)
    let second := request "3 * 4\n".toList .unlimited
    let command := "calculator".toList
    let execution := ((builtIn .standard).used [(command, first)]).execute command second
    ((builtIn .standard).execute command first).result = .error (.failed ["closed".toList]) ∧
      ∃ place content records, second.tree.node? place = none ∧
        execution.tree.file? place = some content ∧
        History.read content .finished = .ok records ∧
        records.map Record.listing = ["3.0 * 4.0 = 12.0".toList] := by
  intro request first second command execution
  let place := ["home", "csv_history", "calculator_history_290224235908.csv"].map String.toList
  let content := Utf8.encode "operand1,operation,operand2,result\n3.0,*,4.0,12.0\n".toList
  have hold : second.tree.file? place ≠ some content := by decide +kernel
  have hnew : execution.tree.file? place = some content := by decide +kernel
  have hcut : CutsInto second.input [Utf8.encode "3 * 4".toList] [] := by decide +kernel
  obtain ⟨-, hfile⟩ := execute_isolated .standard [(command, first)] command second
  obtain ⟨records, hread, hrecords, -⟩ := hfile place content hold hnew _ _ hcut
  refine ⟨by decide +kernel, place, content, records, by decide +kernel, hnew, hread, ?_⟩
  rw [hrecords]
  decide +kernel

end Registry

end Abacus
