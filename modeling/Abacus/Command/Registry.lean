import Abacus.Command.Handler

/-!
# The registry of commands

Keeps at most one handler for each command name. `Registry.execute` resolves a text to a name and
runs the handler that was registered last under it.
-/

namespace Abacus

/-- Why a command could not be run or failed. -/
inductive CommandError where
  /-- The text names no command. -/
  | unknown (text : Text)
  /-- No handler is registered under the name. -/
  | notRegistered (name : CommandName)
  /-- The handler failed with a chain of errors. -/
  | failed (chain : List Text)
  deriving DecidableEq

namespace CommandError

/-- The wording of an error. -/
def message : CommandError → Text
  | unknown text => "No such command: ".toList ++ text
  | notRegistered name => "Command is not registered: ".toList ++ name.text
  | failed chain => "Command failed: ".toList ++ chain.headD []

/-- The errors behind an error, the outermost first. -/
def causes : CommandError → List Text
  | failed chain => chain
  | _ => []

end CommandError

/-- The name that a text gives; the error holds the text as it is. -/
def CommandName.parse (text : Text) : Except CommandError CommandName :=
  match ofText? text with
  | some name => .ok name
  | none => .error (.unknown text)

/-- The handlers behind the command names. -/
structure Registry where
  find : CommandName → Option Handler

/-- What the execution of a command did. -/
structure Execution where
  registry : Registry
  output : Bytes
  unread : Bytes
  tree : FileTree
  events : List Log.Event
  result : Except CommandError Unit

namespace Registry

/-- A registry without handlers. -/
def empty : Registry :=
  ⟨fun _ => none⟩

/-- Puts a handler behind its name. -/
def register (registry : Registry) (handler : Handler) : Registry :=
  ⟨fun name => if name = handler.name then some handler else registry.find name⟩

theorem find_register_self (registry : Registry) (handler : Handler) :
    (registry.register handler).find handler.name = some handler :=
  if_pos rfl

theorem find_register_of_ne (registry : Registry) (handler : Handler) {name : CommandName}
    (h : name ≠ handler.name) : (registry.register handler).find name = registry.find name :=
  if_neg h

/-- The names with a handler, in order. -/
def names (registry : Registry) : List CommandName :=
  CommandName.all.filter fun name => (registry.find name).isSome

/-- The names with the descriptions of their handlers, in order. -/
def describeAll (registry : Registry) : List (CommandName × Text) :=
  CommandName.all.filterMap fun name =>
    (registry.find name).map fun handler => (name, handler.description)

/-- An execution that came to nothing. -/
def refuse (registry : Registry) (request : Request) (error : CommandError) : Execution :=
  ⟨registry, [], request.input, request.tree, [], .error error⟩

/-- An execution by a handler. -/
def runHandler (registry : Registry) (name : CommandName) (handler : Handler) (request : Request) :
    Execution :=
  let (response, handler') := handler.serve request
  ⟨registry.register handler', response.output, response.unread, response.tree,
    .commandStarted name :: response.events, response.result.mapError .failed⟩

/-- Executes the command that a text names. -/
def execute (registry : Registry) (text : Text) (request : Request) : Execution :=
  match CommandName.parse text with
  | .error error => registry.refuse request error
  | .ok name =>
    match registry.find name with
    | none => registry.refuse request (.notRegistered name)
    | some handler => registry.runHandler name handler request

end Registry

end Abacus
