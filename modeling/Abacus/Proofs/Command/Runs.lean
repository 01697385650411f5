import Abacus.Command.Registry
import Mathlib.Data.List.DropRight
import Mathlib.Data.List.Forall2

/-!
# Runs of a registry

A registry is called to register handlers and to execute commands, in any order. What it holds
then can be read off the calls: under each name the handler that was registered last, which has
served the requests that came for the name since (`Registry.find_run`). `Registry.reflects_run`
says what a client sees of it: the names and their descriptions, and what one more execution does.
-/

namespace Abacus

/-! ## Calls -/

/-- A call of a registry. -/
inductive Call where
  /-- Registers a handler. -/
  | register (handler : Handler)
  /-- Executes the command that a text names. -/
  | execute (text : Text) (request : Request)

namespace Call

/-- The handler that a call registers. -/
def handler? : Call → Option Handler
  | register handler => some handler
  | execute _ _ => none

/-- The requests that a call has for the handler of a name. -/
def requestsTo (name : CommandName) : Call → List Request
  | register _ => []
  | execute text request => if CommandName.ofText? text = some name then [request] else []

end Call

/-- The handlers that calls register, oldest first. -/
def registered (calls : List Call) : List Handler :=
  calls.filterMap Call.handler?

/-- The handler that calls register last under a name. -/
def lastUnder? (name : CommandName) (calls : List Call) : Option Handler :=
  ((registered calls).filter (·.name = name)).getLast?

/-- The requests that calls have for the handler of a name since they registered one last. -/
def requestsTo (name : CommandName) (calls : List Call) : List Request :=
  (calls.rtakeWhile (·.handler?.all (·.name ≠ name))).flatMap (Call.requestsTo name)

section Snoc

variable {name : CommandName} (calls : List Call) {handler : Handler} (text : Text)
  (request : Request)

theorem registered_register :
    registered (calls ++ [.register handler]) = registered calls ++ [handler] := by
  simp [registered, Call.handler?]

theorem registered_execute :
    registered (calls ++ [.execute text request]) = registered calls := by
  simp [registered, Call.handler?]

@[simp]
theorem lastUnder?_register_self :
    lastUnder? handler.name (calls ++ [.register handler]) = some handler := by
  simp [lastUnder?, registered_register]

theorem lastUnder?_register_of_ne (h : handler.name ≠ name) :
    lastUnder? name (calls ++ [.register handler]) = lastUnder? name calls := by
  simp [lastUnder?, registered_register, h]

@[simp]
theorem lastUnder?_execute :
    lastUnder? name (calls ++ [.execute text request]) = lastUnder? name calls := by
  simp [lastUnder?, registered_execute]

@[simp]
theorem requestsTo_register_self :
    requestsTo handler.name (calls ++ [.register handler]) = [] := by
  simp [requestsTo, Call.handler?]

theorem requestsTo_register_of_ne (h : handler.name ≠ name) :
    requestsTo name (calls ++ [.register handler]) = requestsTo name calls := by
  simp [requestsTo, Call.handler?, Call.requestsTo, h]

theorem requestsTo_execute :
    requestsTo name (calls ++ [.execute text request]) =
      requestsTo name calls ++ (Call.execute text request).requestsTo name := by
  simp [requestsTo, Call.handler?]

theorem isSome_lastUnder?_iff :
    (lastUnder? name calls).isSome ↔ ∃ handler ∈ registered calls, handler.name = name := by
  simp [lastUnder?, Option.isSome_iff_ne_none]

end Snoc

/-! ## Handlers that have served -/

/-- A handler that has served further requests. -/
def Handler.after (handler : Handler) (requests : List Request) : Handler :=
  { handler with served := handler.served ++ requests }

namespace Handler

variable (handler : Handler) (first second : List Request)

@[simp]
theorem name_after : (handler.after first).name = handler.name :=
  rfl

@[simp]
theorem description_after : (handler.after first).description = handler.description :=
  rfl

@[simp]
theorem after_nil : handler.after [] = handler := by
  simp [after]

@[simp]
theorem after_after : (handler.after first).after second = handler.after (first ++ second) := by
  simp [after]

theorem serve_eq (request : Request) :
    handler.serve request = (handler.respond handler.served request, handler.after [request]) :=
  rfl

end Handler

/-! ## Runs -/

attribute [ext] Registry

namespace Registry

/-- What a call makes of a registry. -/
def call (registry : Registry) : Call → Registry
  | .register handler => registry.register handler
  | .execute text request => (registry.execute text request).registry

/-- What calls make of a registry, one after the other. -/
def run (registry : Registry) (calls : List Call) : Registry :=
  calls.foldl call registry

/-- Each handler stands under its own name. -/
def IsKeyed (registry : Registry) : Prop :=
  ∀ ⦃name handler⦄, registry.find name = some handler → handler.name = name

variable {registry : Registry} {name : CommandName}

theorem run_concat (registry : Registry) (calls : List Call) (call : Call) :
    registry.run (calls ++ [call]) = (registry.run calls).call call := by
  simp [run]

theorem isKeyed_empty : empty.IsKeyed := by
  simp [IsKeyed, empty]

/-- What holds of all handlers and of a further one still holds of all once that is registered. -/
theorem forall_find_register {P : CommandName → Handler → Prop} {handler : Handler}
    (h : ∀ ⦃name other⦄, registry.find name = some other → P name other)
    (hhandler : P handler.name handler) :
    ∀ ⦃name other⦄, (registry.register handler).find name = some other → P name other := by
  intro name other hfind
  by_cases hname : name = handler.name
  · rw [hname, find_register_self, Option.some.injEq] at hfind
    rwa [hname, ← hfind]
  · rw [find_register_of_ne _ _ hname] at hfind
    exact h hfind

theorem IsKeyed.register (h : registry.IsKeyed) (handler : Handler) :
    (registry.register handler).IsKeyed :=
  forall_find_register h rfl

section Execute

variable {text : Text} {handler : Handler} (request : Request)

theorem execute_of_unknown (h : CommandName.ofText? text = none) :
    registry.execute text request = registry.refuse request (.unknown text) := by
  simp [execute, CommandName.parse, h]

theorem execute_of_not_registered (h : CommandName.ofText? text = some name)
    (hfind : registry.find name = none) :
    registry.execute text request = registry.refuse request (.notRegistered name) := by
  simp [execute, CommandName.parse, h, hfind]

theorem execute_of_registered (h : CommandName.ofText? text = some name)
    (hfind : registry.find name = some handler) :
    registry.execute text request = registry.runHandler name handler request := by
  simp [execute, CommandName.parse, h, hfind]

end Execute

@[simp]
theorem registry_refuse (registry : Registry) (request : Request) (error : CommandError) :
    (registry.refuse request error).registry = registry :=
  rfl

@[simp]
theorem registry_runHandler (registry : Registry) (name : CommandName) (handler : Handler)
    (request : Request) :
    (registry.runHandler name handler request).registry =
      registry.register (handler.after [request]) :=
  rfl

theorem find_register_after_self (registry : Registry) (handler : Handler)
    (requests : List Request) :
    (registry.register (handler.after requests)).find handler.name =
      some (handler.after requests) :=
  registry.find_register_self (handler.after requests)

theorem find_register_after_of_ne (registry : Registry) (handler : Handler)
    (requests : List Request) (h : name ≠ handler.name) :
    (registry.register (handler.after requests)).find name = registry.find name :=
  registry.find_register_of_ne (handler.after requests) h

/-- An execution leaves each handler where it is; the one that is named has served the request. -/
theorem find_execute (h : registry.IsKeyed) (text : Text) (request : Request)
    (name : CommandName) :
    (registry.execute text request).registry.find name =
      (registry.find name).map (·.after ((Call.execute text request).requestsTo name)) := by
  cases htext : CommandName.ofText? text with
  | none => simp [execute_of_unknown, htext, Call.requestsTo]
  | some named =>
    cases hfind : registry.find named with
    | none =>
      by_cases hname : named = name
      · simp [execute_of_not_registered request htext hfind, ← hname, hfind]
      · simp [execute_of_not_registered request htext hfind, Call.requestsTo, htext, hname]
    | some handler =>
      obtain rfl := h hfind
      rw [execute_of_registered request htext hfind, registry_runHandler]
      by_cases hname : name = handler.name
      · simp [hname, find_register_after_self, hfind, Call.requestsTo, htext]
      · simp [find_register_after_of_ne, hname, Call.requestsTo, htext, Ne.symm hname]

theorem isKeyed_call (h : registry.IsKeyed) (call : Call) : (registry.call call).IsKeyed := by
  cases call with
  | register handler => exact h.register handler
  | execute text request =>
    intro name other hfind
    rw [Registry.call, find_execute h, Option.map_eq_some_iff] at hfind
    obtain ⟨handler, hhandler, rfl⟩ := hfind
    exact (handler.name_after _).trans (h hhandler)

theorem IsKeyed.run (h : registry.IsKeyed) (calls : List Call) : (registry.run calls).IsKeyed := by
  induction calls generalizing registry with
  | nil => exact h
  | cons call calls ih => exact ih (isKeyed_call h call)

/-- After calls the handler under a name is the one that they registered last, or else the one
from before, and it has served the requests that came for it since. -/
theorem find_run (h : registry.IsKeyed) (calls : List Call) (name : CommandName) :
    (registry.run calls).find name =
      ((lastUnder? name calls).or (registry.find name)).map (·.after (requestsTo name calls)) := by
  induction calls using List.reverseRecOn with
  | nil => simp [run, lastUnder?, registered, requestsTo]
  | append_singleton calls call ih =>
    rw [run_concat]
    cases call with
    | register handler =>
      by_cases hname : name = handler.name
      · subst hname
        simp [call, find_register_self]
      · have hne := Ne.symm hname
        simp [call, find_register_of_ne, hname, ih, lastUnder?_register_of_ne,
          requestsTo_register_of_ne, hne]
    | execute text request =>
      rw [call, find_execute (h.run calls), ih]
      simp [requestsTo_execute, Function.comp_def]

/-- Two handlers with different names can be registered in either order. -/
theorem register_comm (registry : Registry) {first second : Handler}
    (h : first.name ≠ second.name) :
    (registry.register first).register second = (registry.register second).register first := by
  ext1
  funext name
  by_cases hname : name = first.name
  · subst hname
    simp [find_register_of_ne, find_register_self, h]
  · by_cases hname' : name = second.name
    · subst hname'
      simp [find_register_of_ne, find_register_self, hname]
    · simp [find_register_of_ne, hname, hname']

/-! ## What a client sees -/

theorem pairwise_names (registry : Registry) :
    registry.names.Pairwise (·.rank < ·.rank) :=
  List.Pairwise.filter _ (by decide)

theorem mem_names : name ∈ registry.names ↔ (registry.find name).isSome := by
  have hall : name ∈ CommandName.all := by cases name <;> decide
  simp [names, hall]

/-- The descriptions stand in the order of the names, one for each. -/
theorem forall₂_names_describeAll (registry : Registry) :
    List.Forall₂ (fun name entry => ∃ handler, registry.find name = some handler ∧
      entry = (name, handler.description)) registry.names registry.describeAll := by
  rw [names, describeAll]
  induction CommandName.all with
  | nil => exact .nil
  | cons name others ih =>
    cases hfind : registry.find name with
    | none => simpa [hfind] using ih
    | some handler => simpa [hfind] using ih

end Registry

/-- An execution did nothing and reports an error. -/
structure Execution.Refuses (execution : Execution) (request : Request) (error : CommandError) :
    Prop where
  output : execution.output = []
  unread : execution.unread = request.input
  tree : execution.tree = request.tree
  events : execution.events = []
  result : execution.result = .error error

/-- An execution did what the response of one handler says, and fails exactly if that does. -/
structure Execution.Answers (execution : Execution) (name : CommandName) (response : Response) :
    Prop where
  output : execution.output = response.output
  unread : execution.unread = response.unread
  tree : execution.tree = response.tree
  events : execution.events = .commandStarted name :: response.events
  ok_iff : execution.result = .ok () ↔ response.result = .ok ()
  error_iff (error : CommandError) : execution.result = .error error ↔
    ∃ chain, response.result = .error chain ∧ error = .failed chain

namespace Registry

variable {name : CommandName} {handler : Handler}

theorem refuses_refuse (registry : Registry) (request : Request) (error : CommandError) :
    (registry.refuse request error).Refuses request error :=
  ⟨rfl, rfl, rfl, rfl, rfl⟩

theorem answers_runHandler (registry : Registry) (name : CommandName) (handler : Handler)
    (request : Request) :
    (registry.runHandler name handler request).Answers name
      (handler.respond handler.served request) := by
  have hresult : (registry.runHandler name handler request).result =
      (handler.respond handler.served request).result.mapError .failed := rfl
  refine ⟨rfl, rfl, rfl, rfl, ?_, fun error => ?_⟩
  · rw [hresult]
    cases (handler.respond handler.served request).result <;> simp [Except.mapError]
  · rw [hresult]
    cases (handler.respond handler.served request).result <;> simp [Except.mapError, eq_comm]

/-- What a client sees of a registry after calls of an empty one. -/
structure Reflects (registry : Registry) (calls : List Call) : Prop where
  /-- The names are in order, each of them once. -/
  names_ordered : registry.names.Pairwise (·.rank < ·.rank)
  /-- The names are those under which a handler has been registered. -/
  mem_names_iff (name : CommandName) :
    name ∈ registry.names ↔ ∃ handler ∈ registered calls, handler.name = name
  /-- Each name has the description of the handler that was registered last under it. -/
  described : List.Forall₂ (fun name entry => ∃ handler, lastUnder? name calls = some handler ∧
    entry = (name, handler.description)) registry.names registry.describeAll
  /-- Handlers with different names can be registered in either order. -/
  register_comm (first second : Handler) : first.name ≠ second.name →
    (registry.register first).register second = (registry.register second).register first
  /-- An execution changes no name. -/
  names_execute (text : Text) (request : Request) :
    (registry.execute text request).registry.names = registry.names
  /-- An execution leaves each handler where it is. The one that the text names, and no other, has
  served the request, once. -/
  find_execute (text : Text) (request : Request) (name : CommandName) :
    (registry.execute text request).registry.find name = (registry.find name).map
      (·.after (if CommandName.ofText? text = some name then [request] else []))
  /-- A text that names no command is refused. -/
  unknown (text : Text) (request : Request) : CommandName.ofText? text = none →
    (registry.execute text request).Refuses request (.unknown text)
  /-- A name under which no handler has been registered is refused. -/
  not_registered (text : Text) (request : Request) (name : CommandName) :
    CommandName.ofText? text = some name → lastUnder? name calls = none →
    (registry.execute text request).Refuses request (.notRegistered name)
  /-- Any other text is answered by the handler registered last under the name, as it answers
  after the requests that have come for the name since. -/
  answered (text : Text) (request : Request) (name : CommandName) (handler : Handler) :
    CommandName.ofText? text = some name → lastUnder? name calls = some handler →
    (registry.execute text request).Answers name
      (handler.respond (handler.served ++ requestsTo name calls) request)

theorem find_run_empty (calls : List Call) (name : CommandName) :
    (empty.run calls).find name =
      (lastUnder? name calls).map (·.after (requestsTo name calls)) := by
  rw [find_run isKeyed_empty]
  simp [empty]

/-- A registry shows of its calls the handlers that were registered last, and nothing else. -/
theorem reflects_run (calls : List Call) : (empty.run calls).Reflects calls where
  names_ordered := pairwise_names _
  mem_names_iff name := by
    simp [mem_names, find_run_empty, isSome_lastUnder?_iff]
  described := by
    refine (forall₂_names_describeAll _).imp ?_
    rintro name entry ⟨handler, hfind, rfl⟩
    rw [find_run_empty, Option.map_eq_some_iff] at hfind
    obtain ⟨last, hlast, rfl⟩ := hfind
    exact ⟨last, hlast, rfl⟩
  register_comm _ _ := Registry.register_comm _
  names_execute text request := by
    simp [names, Registry.find_execute (isKeyed_empty.run calls)]
  find_execute := Registry.find_execute (isKeyed_empty.run calls)
  unknown text request htext := by
    rw [execute_of_unknown request htext]
    exact refuses_refuse _ _ _
  not_registered text request name htext hlast := by
    rw [execute_of_not_registered request htext (by simp [find_run_empty, hlast])]
    exact refuses_refuse _ _ _
  answered text request name handler htext hlast := by
    have hfind : (empty.run calls).find name = some (handler.after (requestsTo name calls)) := by
      simp [find_run_empty, hlast]
    rw [execute_of_registered request htext hfind]
    exact answers_runHandler _ _ _ _

end Registry

end Abacus
