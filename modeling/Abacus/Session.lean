import Abacus.Calculator
import Abacus.Command.Handler
import Abacus.Config
import Abacus.Save

/-!
# Calculator sessions

A session prompts for a line, replies to it, and goes on until a line says `exit` or the input
ends; then it saves its ledger. Each session starts with an empty ledger. A line that is not UTF-8
is read with its faults replaced. A broken input ends a session like a finished one, but what was
read of the line under way is lost.
-/

namespace Abacus.Session

/-! ## Lines of input -/

/-- Whole lines, each with its line feed, and the bytes behind the last of them. The line under
way is held backwards. -/
def cutLines (under : Bytes) : Bytes → List Bytes × Bytes
  | [] => ([], under.reverse)
  | b :: rest =>
    if b = lineFeed then
      let cut := cutLines [] rest
      ((b :: under).reverse :: cut.1, cut.2)
    else
      cutLines (b :: under) rest

/-- The lines that a session hears: at a finished end, an unfinished line counts. -/
def heard (input : Bytes) (ending : Ending) : List Bytes :=
  let cut := cutLines [] input
  match ending with
  | .finished => if cut.2 = [] then cut.1 else cut.1 ++ [cut.2]
  | .broken _ => cut.1

/-- What is read behind the last line heard: at a broken end, the unfinished line. -/
def lost (input : Bytes) : Ending → Bytes
  | .finished => []
  | .broken _ => (cutLines [] input).2

/-! ## Replies -/

/-- What a session asks before each line. -/
def prompt : Text :=
  "Enter operation (+, -, *, /, history, or exit): ".toList

/-- A text at the right end of a column of some width. -/
def padLeft (width : Nat) (text : Text) : Text :=
  List.replicate (width - text.length) ' ' ++ text

/-- A listed record with its number. -/
def listingLine (number : Nat) (record : Record) : Text :=
  padLeft 3 (toDigits number) ++ ". ".toList ++ record.listing ++ ['\n']

/-- Listed records, numbered from a number on. -/
def listingLines (number : Nat) : List Record → Text
  | [] => []
  | record :: records => listingLine number record ++ listingLines (number + 1) records

/-- The listing of a history. -/
def listing (records : List Record) : Text :=
  if records = [] then "No calculations yet.\n".toList else listingLines 1 records

/-- The reply to a result. -/
def resultReply (result : Binary64) : Text :=
  "Result: ".toList ++ Layout.result.print result ++ ['\n']

/-- The reply to a refused line. -/
def errorReply (error : EvalError) : Text :=
  "Error: ".toList ++ error.message ++ ['\n']

/-- What follows the evaluation of a line: the acts of the reply, or nothing if the session is to
end. -/
def reply (ledger : Ledger) : Except EvalError Outcome → Option (List Act)
  | .ok (.value result) => some [.print (resultReply result)]
  | .ok (.keyword .history) => some [.print (listing ledger.toList)]
  | .ok (.keyword .exit) => none
  | .error error => some [.log (.lineRefused error), .print (errorReply error)]

/-- What a line does to a session. -/
structure Turn where
  acts : List Act
  calculator : Calculator
  goesOn : Bool

/-- The turn of a line. -/
def turn (calculator : Calculator) (line : Bytes) : Turn :=
  let evaluation := calculator.evaluate (Utf8.decodeLossy line)
  let logs := evaluation.events.map .log
  match reply evaluation.calculator.ledger evaluation.outcome with
  | some acts => ⟨logs ++ acts, evaluation.calculator, true⟩
  | none => ⟨logs, evaluation.calculator, false⟩

/-- The acts at the end of the input, where some bytes are lost. -/
def closing (lost : Bytes) : Ending → List Act
  | .finished => [.print ['\n'], .log .inputEnded]
  | .broken reason => [.read lost, .log (.inputFailed reason), .print ['\n']]

/-- A session up to its save: its acts and its ledger. -/
structure Script where
  acts : List Act
  ledger : Ledger

/-- Runs through lines; `last` is done where they end. -/
def run (last : List Act) (calculator : Calculator) : List Bytes → Script
  | [] => ⟨.print prompt :: last, calculator.ledger⟩
  | line :: rest =>
    let t := turn calculator line
    if t.goesOn then
      let script := run last t.calculator rest
      ⟨.print prompt :: .read line :: t.acts ++ script.acts, script.ledger⟩
    else
      ⟨.print prompt :: .read line :: t.acts, t.calculator.ledger⟩

/-! ## Sessions -/

/-- The script of a session on an input. -/
def script (input : Bytes) (ending : Ending) : Script :=
  run (closing (lost input ending) ending) .new (heard input ending)

/-- What a session says last. -/
def savedLine (path : Text) : Text :=
  "History saved to ".toList ++ path ++ ['\n']

/-- How a failed save is reported. -/
def saveFailure (chain : List Text) : List Text :=
  "Failed to save calculator history".toList :: chain

/-- The acts of a successful save. -/
def savedActs (path : Text) (count : Nat) : List Act :=
  [.log (.historySaved path count), .print (savedLine path)]

/-- Saves the ledger of a session whose acts have gone out, and says so. -/
def finish (dir : Text) (request : Request) (ledger : Ledger) (played : Played) (room : Room) :
    Response :=
  let unread := request.input.drop played.taken
  match request.tree.save dir ledger.toList request.now with
  | (tree, .error error) =>
    ⟨played.output, unread, tree, played.events, .error (saveFailure error.chain)⟩
  | (tree, .ok path) =>
    let last := playActs room (savedActs path ledger.size)
    ⟨played.output ++ last.output, unread, tree, played.events ++ last.events, last.result⟩

/-- A whole session that saves in a directory. If its output fails nothing is saved. -/
def execute (dir : Text) (request : Request) : Response :=
  let script := script request.input request.ending
  let played := playActs request.room script.acts
  match played.outcome with
  | .error _ => played.response request
  | .ok room => finish dir request script.ledger played room

/-- What the command of sessions is said to do. -/
def description : Text :=
  "Interactive calculator (+, -, *, /) with history export".toList

/-- The command of sessions; each session is on its own. -/
def handler (config : Config) : Handler :=
  ⟨.calculator, description, fun _ request => execute config.historyDir request, []⟩

end Abacus.Session
