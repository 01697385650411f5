import Abacus.Proofs.Command.Acts
import Abacus.Proofs.Command.Reuse
import Abacus.Proofs.Session.Reply

/-!
# What the menu tells

The menu prints the descriptions that there were when the built-in registry was made
(`Menu.output_execute`). No call takes a name from the registry (`Registry.describeAll_run`), so the
menu always has one line for each command, in their order. But a handler that is registered later in
the place of the sessions brings a description of its own, which the menu does not learn.
`Registry.execute_menu` says when the menu is right, and `Registry.execute_menu_stale` has a case in
which it is not.
-/

namespace Abacus

/-- A command that puts its input out again. -/
def Handler.echo (name : CommandName) (description : Text) : Handler :=
  ⟨name, description, fun _ request =>
    (playActs request.room [.read request.input, .write request.input]).response request, []⟩

namespace Menu

/-- All that a menu of some commands prints. -/
def text (entries : List (CommandName × Text)) : Text :=
  "Available commands:\n".toList ++ entries.flatMap line

theorem printed_acts (entries : List (CommandName × Text)) :
    printed (acts entries) = Utf8.encode (text entries) := by
  have hlines : printed (entries.map fun entry => .print (line entry)) =
      Utf8.encode (entries.flatMap line) := by
    induction entries with
    | nil => rfl
    | cons entry entries ih =>
      rw [List.map_cons, printed_cons, Act.output_print, ih, List.flatMap_cons,
        Utf8.encode_append]
  unfold acts text
  rw [printed_cons, Act.output_print, hlines, Utf8.encode_append]

/-- A menu prints the commands that it was made with. -/
theorem output_execute {entries : List (CommandName × Text)} {request : Request}
    (h : request.room.Takes (Utf8.encode (text entries))) :
    (execute entries request).output = Utf8.encode (text entries) ∧
      (execute entries request).result = .ok () := by
  rw [← printed_acts] at h ⊢
  obtain ⟨houtput, room, houtcome, -⟩ := output_playActs h
  simp only [execute, Played.response, Played.result, houtput, houtcome, true_and]

/-- The line of a command without its description. -/
def label (name : CommandName) : Text :=
  "  ".toList ++ padRight 12 name.text ++ [' ']

theorem line_eq (name : CommandName) (description : Text) :
    line (name, description) = label name ++ (description ++ ['\n']) := by
  simp [line, label]

/-- The line of a command tells its description. -/
theorem line_inj {name : CommandName} {description description' : Text} :
    line (name, description) = line (name, description') ↔ description = description' := by
  rw [line_eq, line_eq, List.append_right_inj, List.append_left_inj]

theorem newline_notMem_label (name : CommandName) : '\n' ∉ label name := by
  cases name <;> decide

theorem isLine_line {name : CommandName} {description : Text} (h : '\n' ∉ description) :
    Session.IsLine (line (name, description)) := by
  refine ⟨label name ++ description, by rw [line_eq, List.append_assoc], fun hmem => ?_⟩
  exact (List.mem_append.1 hmem).elim (newline_notMem_label name) h

end Menu

namespace Registry

/-! ## Descriptions -/

/-- The menu is made with the descriptions of the registry that it is put in. -/
theorem describeAll_builtIn (config : Config) :
    (builtIn config).describeAll = menuEntries config :=
  rfl

theorem menuEntries_eq (config : Config) : menuEntries config =
    [(.calculator, Session.description), (.menu, Menu.description)] :=
  rfl

/-- The description of the sessions, or of what stands in their place after some calls. -/
def calculatorDescription (calls : List Call) : Text :=
  ((lastUnder? .calculator calls).map Handler.description).getD Session.description

theorem calculatorDescription_eq_iff {calls : List Call} :
    calculatorDescription calls = Session.description ↔
      ∀ handler, lastUnder? .calculator calls = some handler →
        handler.description = Session.description := by
  unfold calculatorDescription
  cases lastUnder? .calculator calls with
  | none => exact ⟨fun _ _ hlast => (nomatch hlast), fun _ => rfl⟩
  | some handler => exact ⟨fun h _ hlast => Option.some.inj hlast ▸ h, fun h => h handler rfl⟩

variable (config : Config) {calls : List Call}

theorem find_run_calculator (calls : List Call) :
    ∃ handler, ((builtIn config).run calls).find .calculator = some handler ∧
      handler.description = calculatorDescription calls := by
  rw [find_run (isKeyed_builtIn config), find_builtIn_calculator, calculatorDescription]
  cases lastUnder? .calculator calls with
  | none => exact ⟨_, rfl, rfl⟩
  | some handler => exact ⟨_, rfl, rfl⟩

/-- Where no other menu is registered, the menu stays the one that was made first. -/
theorem find_run_menu (h : lastUnder? .menu calls = none) :
    ((builtIn config).run calls).find .menu =
      some ((Menu.handler (menuEntries config)).after (requestsTo .menu calls)) := by
  rw [find_run (isKeyed_builtIn config), h, find_builtIn_menu]
  rfl

/-- After any calls there are the same commands, and one description can be another. -/
theorem describeAll_run (h : lastUnder? .menu calls = none) :
    ((builtIn config).run calls).describeAll =
      [(.calculator, calculatorDescription calls), (.menu, Menu.description)] := by
  obtain ⟨handler, hfind, hdescription⟩ := find_run_calculator config calls
  simp only [describeAll, CommandName.all, List.filterMap_cons, List.filterMap_nil, hfind,
    find_run_menu config h, Option.map_some, hdescription]
  rfl

theorem names_run (h : lastUnder? .menu calls = none) :
    ((builtIn config).run calls).names = CommandName.all := by
  obtain ⟨handler, hfind, -⟩ := find_run_calculator config calls
  rw [names, List.filter_eq_self]
  intro name _
  cases name with
  | calculator => rw [hfind]; rfl
  | menu => rw [find_run_menu config h]; rfl

/-! ## The menu -/

theorem text_describeAll_inj {description description' : Text} {entry : CommandName × Text} :
    Menu.text [(.calculator, description), entry] =
      Menu.text [(.calculator, description'), entry] ↔ description = description' := by
  unfold Menu.text
  simp only [List.flatMap_cons, List.append_right_inj, List.append_left_inj, Menu.line_inj]

/-- The menu after any calls of the built-in registry that register no other menu. It is asked for
by any text that names it, of an output with the room for it.
1. It prints the descriptions that there were at first, and nothing else.
2. That is one line for each command that is registered now, in the order of their names.
3. It prints the descriptions that there are now exactly if what stands in the place of the sessions
   is described as they are. -/
theorem execute_menu {config : Config} {calls : List Call} {text : Text} {request : Request}
    (hcalls : lastUnder? .menu calls = none) (htext : CommandName.ofText? text = some .menu)
    (hroom : request.room.Takes (Utf8.encode (Menu.text (builtIn config).describeAll))) :
    let registry := (builtIn config).run calls
    let execution := registry.execute text request
    (execution.result = .ok () ∧
        execution.output = Utf8.encode (Menu.text (builtIn config).describeAll)) ∧
      ((builtIn config).describeAll.map Prod.fst = registry.names ∧
        ∀ entry ∈ (builtIn config).describeAll, Session.IsLine (Menu.line entry)) ∧
      (execution.output = Utf8.encode (Menu.text registry.describeAll) ↔
        ∀ handler, lastUnder? .calculator calls = some handler →
          handler.description = Session.description) := by
  intro registry execution
  rw [describeAll_builtIn] at hroom ⊢
  have hanswers : execution.Answers .menu (Menu.execute (menuEntries config) request) := by
    have hfind := find_run_menu config hcalls
    rw [show execution = _ from execute_of_registered request htext hfind]
    exact answers_runHandler _ _ _ _
  obtain ⟨houtput, hresult⟩ := Menu.output_execute hroom
  have hprinted := hanswers.output.trans houtput
  refine ⟨⟨hanswers.ok_iff.2 hresult, hprinted⟩, ⟨?_, ?_⟩, ?_⟩
  · rw [names_run config hcalls]
    rfl
  · rw [menuEntries_eq, List.forall_mem_cons, List.forall_mem_singleton]
    exact ⟨Menu.isLine_line (by decide), Menu.isLine_line (by decide)⟩
  · rw [hprinted, describeAll_run config hcalls, menuEntries_eq, Utf8.encode_inj,
      text_describeAll_inj, eq_comm, calculatorDescription_eq_iff]

/-- Sessions in another directory take the place of a handler with a description of its own. -/
theorem execute_menu_restored :
    let request : Request :=
      ⟨[], .finished, .unlimited, .new ["home".toList], ⟨⟨2024, 2, 29, 23, 59, 8, 0⟩, by decide⟩⟩
    let calls : List Call :=
      [.register (.echo .calculator "Echo input".toList), .execute "calculator".toList request,
        .register (Session.handler ⟨"out".toList, .standard⟩)]
    let registry := (builtIn .standard).run calls
    (registry.execute " Menu".toList request).output =
      Utf8.encode (Menu.text registry.describeAll) := by
  intro request calls registry
  have hcalls : lastUnder? .menu calls = none := rfl
  have hname : CommandName.ofText? " Menu".toList = some .menu := by decide
  have hlast : lastUnder? .calculator calls =
      some (Session.handler ⟨"out".toList, .standard⟩) := rfl
  have hroom : request.room.Takes (Utf8.encode (Menu.text (builtIn .standard).describeAll)) :=
    Room.takes_unlimited _
  obtain ⟨-, -, htrue⟩ := execute_menu hcalls hname hroom
  exact htrue.2 fun handler h => Option.some.inj (hlast.symm.trans h) ▸ rfl

/-- A handler with a description of its own takes the place of the sessions, and the menu goes on to
describe them. -/
theorem execute_menu_stale :
    let request : Request :=
      ⟨[], .finished, .unlimited, .new ["home".toList], ⟨⟨2024, 2, 29, 23, 59, 8, 0⟩, by decide⟩⟩
    let registry := (builtIn .standard).run [.register (.echo .calculator "Echo input".toList)]
    registry.describeAll =
        [(.calculator, "Echo input".toList), (.menu, "List available commands".toList)] ∧
      (registry.execute "menu".toList request).output = Utf8.encode
        ("Available commands:\n".toList ++
          "  calculator   Interactive calculator (+, -, *, /) with history export\n".toList ++
          "  menu         List available commands\n".toList) ∧
      (registry.execute "menu".toList request).output ≠
        Utf8.encode (Menu.text registry.describeAll) := by
  decide +kernel

end Registry

end Abacus
