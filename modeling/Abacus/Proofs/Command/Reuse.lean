import Abacus.Command.Menu
import Abacus.Proofs.Command.Runs

/-!
# Registries in use

A handler that keeps nothing answers each request as if it were the first. In a registry of such
handlers the commands that have been executed leave nothing behind: whatever they were, the next
one does what it does on the registry as it was before them (`Registry.agrees_execute_used`). The
built-in registry is one of these (`Registry.keepsNothing_builtIn`).
-/

namespace Abacus

/-- What a handler has served makes no difference to its answers. -/
def Handler.KeepsNothing (handler : Handler) : Prop :=
  ∀ served served' request, handler.respond served request = handler.respond served' request

/-- Two executions do the same to all but their registries. -/
structure Execution.Agrees (first second : Execution) : Prop where
  output : first.output = second.output
  unread : first.unread = second.unread
  tree : first.tree = second.tree
  events : first.events = second.events
  result : first.result = second.result

namespace Registry

variable {registry : Registry}

/-- No handler of a registry keeps anything. -/
def KeepsNothing (registry : Registry) : Prop :=
  ∀ ⦃name handler⦄, registry.find name = some handler → handler.KeepsNothing

/-- The calls that execute commands. -/
def executions (commands : List (Text × Request)) : List Call :=
  commands.map fun command => .execute command.1 command.2

/-- A registry after some commands, one behind the other. -/
def used (registry : Registry) (commands : List (Text × Request)) : Registry :=
  registry.run (executions commands)

/-! ## Commands leave nothing behind -/

theorem registered_executions (commands : List (Text × Request)) :
    registered (executions commands) = [] := by
  induction commands with
  | nil => rfl
  | cons command commands ih => exact ih

/-- Commands leave each handler where it is. -/
theorem find_used (h : registry.IsKeyed) (commands : List (Text × Request)) (name : CommandName) :
    ∃ requests, (registry.used commands).find name =
      (registry.find name).map (·.after requests) := by
  have hnone : lastUnder? name (executions commands) = none := by
    rw [lastUnder?, registered_executions]
    rfl
  have hfind := find_run h (executions commands) name
  rw [hnone, Option.none_or] at hfind
  exact ⟨_, hfind⟩

theorem agrees_refuse (registry registry' : Registry) (request : Request) (error : CommandError) :
    (registry'.refuse request error).Agrees (registry.refuse request error) :=
  ⟨rfl, rfl, rfl, rfl, rfl⟩

theorem agrees_runHandler (registry registry' : Registry) (name : CommandName) {handler : Handler}
    (h : handler.KeepsNothing) (requests : List Request) (request : Request) :
    (registry'.runHandler name (handler.after requests) request).Agrees
      (registry.runHandler name handler request) := by
  have hanswer : (handler.after requests).respond (handler.after requests).served request =
      handler.respond handler.served request := h _ _ request
  simp only [runHandler, Handler.serve_eq, hanswer]
  exact ⟨rfl, rfl, rfl, rfl, rfl⟩

/-- Where no handler keeps anything, a command does the same after any others as before them. -/
theorem agrees_execute_used (hkeyed : registry.IsKeyed) (hnothing : registry.KeepsNothing)
    (earlier : List (Text × Request)) (text : Text) (request : Request) :
    ((registry.used earlier).execute text request).Agrees (registry.execute text request) := by
  cases htext : CommandName.ofText? text with
  | none =>
    rw [execute_of_unknown request htext, execute_of_unknown request htext]
    exact agrees_refuse _ _ request _
  | some name =>
    obtain ⟨requests, hused⟩ := find_used hkeyed earlier name
    cases hfind : registry.find name with
    | none =>
      rw [hfind] at hused
      rw [execute_of_not_registered request htext hfind,
        execute_of_not_registered request htext hused]
      exact agrees_refuse _ _ request _
    | some handler =>
      rw [hfind] at hused
      rw [execute_of_registered request htext hfind, execute_of_registered request htext hused]
      exact agrees_runHandler _ _ name (hnothing hfind) requests request

/-! ## The built-in registry -/

theorem find_builtIn_calculator (config : Config) :
    (builtIn config).find .calculator = some (Session.handler config) := by
  rw [builtIn, find_register_of_ne _ _ (by simp [Menu.handler])]
  exact find_register_self _ (Session.handler config)

theorem find_builtIn_menu (config : Config) :
    (builtIn config).find .menu = some (Menu.handler (menuEntries config)) :=
  find_register_self _ (Menu.handler (menuEntries config))

theorem isKeyed_builtIn (config : Config) : (builtIn config).IsKeyed :=
  (isKeyed_empty.register _).register _

theorem KeepsNothing.register (h : registry.KeepsNothing) {handler : Handler}
    (hhandler : handler.KeepsNothing) : (registry.register handler).KeepsNothing :=
  forall_find_register (P := fun _ => Handler.KeepsNothing) h hhandler

/-- Sessions and menus keep nothing. -/
theorem keepsNothing_builtIn (config : Config) : (builtIn config).KeepsNothing := by
  have hempty : empty.KeepsNothing := fun _ _ hfind => nomatch hfind
  have hsession : (Session.handler config).KeepsNothing := fun _ _ _ => rfl
  have hmenu : (Menu.handler (menuEntries config)).KeepsNothing := fun _ _ _ => rfl
  exact (hempty.register hsession).register hmenu

end Registry

end Abacus
