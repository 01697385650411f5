import Abacus.FileTree.Basic
import Abacus.Log.Event
import Abacus.Stream
import Abacus.Timestamp

/-!
# Handlers of commands

What a command is given and what it does. A `Handler` may remember: its answer is a function of
the requests it has served and of the present one. Output and log are a list of acts, and
`playActs` carries them out as far as the output has room.
-/

namespace Abacus

/-- What a command is given: its input, the room of its output, the file system and the time. -/
structure Request where
  input : Bytes
  ending : Ending
  room : Room
  tree : FileTree
  now : Timestamp

/-- What a command does. Errors are chains of wordings, the outermost first. -/
structure Response where
  output : Bytes
  unread : Bytes
  tree : FileTree
  events : List Log.Event
  result : Except (List Text) Unit

/-- A command behind a name. -/
structure Handler where
  name : CommandName
  description : Text
  /-- The answer after some requests, oldest first, to a further one. -/
  respond : List Request → Request → Response
  /-- The requests served so far, oldest first. -/
  served : List Request

namespace Handler

/-- Serves a request. -/
def serve (handler : Handler) (request : Request) : Response × Handler :=
  (handler.respond handler.served request,
    ⟨handler.name, handler.description, handler.respond, handler.served ++ [request]⟩)

end Handler

/-! ## Acts -/

/-- A step of a command that can be seen from outside. -/
inductive Act where
  /-- Takes bytes from the front of the input. -/
  | read (bytes : Bytes)
  /-- Puts bytes out. -/
  | write (bytes : Bytes)
  /-- Reports an event. -/
  | log (event : Log.Event)
  deriving DecidableEq

/-- Writes a text. -/
def Act.print (text : Text) : Act :=
  .write (Utf8.encode text)

/-- What acts did: how many bytes were read, the bytes that went out, the events that were logged,
and the room left or the reason why the output failed. -/
structure Played where
  taken : Nat
  output : Bytes
  events : List Log.Event
  outcome : Except Text Room

/-- Carries out acts up to the first write that fails. -/
def playActs (room : Room) : List Act → Played
  | [] => ⟨0, [], [], .ok room⟩
  | .read bytes :: rest =>
    let played := playActs room rest
    ⟨bytes.length + played.taken, played.output, played.events, played.outcome⟩
  | .log event :: rest =>
    let played := playActs room rest
    ⟨played.taken, played.output, event :: played.events, played.outcome⟩
  | .write bytes :: rest =>
    match room.write bytes with
    | .error (sent, reason) => ⟨0, sent, [], .error reason⟩
    | .ok room' =>
      let played := playActs room' rest
      ⟨played.taken, bytes ++ played.output, played.events, played.outcome⟩

/-- The result of acts, as a command reports it. -/
def Played.result (played : Played) : Except (List Text) Unit :=
  match played.outcome with
  | .ok _ => .ok ()
  | .error reason => .error [reason]

/-- A command that is nothing but its acts. -/
def Played.response (played : Played) (request : Request) : Response :=
  ⟨played.output, request.input.drop played.taken, request.tree, played.events, played.result⟩

end Abacus
