import Abacus.Program.Run
import Std.Time.DateTime
import Std.Time.Zoned

/-!
# The program

Arguments, environment, streams, files and the clock of the real system around the rules of the
library. Each line is answered as soon as it is read.
-/

namespace Abacus.Outer

/-- Effects that fail with a chain of errors, the outermost first. -/
abbrev Effect := ExceptT (List Text) IO

/-! ## Errors of the system -/

/-- An error of the system and its number. -/
def systemReason (details : String) (code : UInt32) : Text :=
  details.toList ++ " (os error ".toList ++ toDigits code.toNat ++ ")".toList

/-- The wording of an error of the system. -/
def reason : IO.Error → Text
  | .alreadyExists _ code details => systemReason details code
  | .otherError code details => systemReason details code
  | .resourceBusy code details => systemReason details code
  | .resourceVanished code details => systemReason details code
  | .unsupportedOperation code details => systemReason details code
  | .hardwareFault code details => systemReason details code
  | .unsatisfiedConstraints code details => systemReason details code
  | .illegalOperation code details => systemReason details code
  | .protocolError code details => systemReason details code
  | .timeExpired code details => systemReason details code
  | .interrupted _ code details => systemReason details code
  | .noFileOrDirectory _ code details => systemReason details code
  | .invalidArgument _ code details => systemReason details code
  | .permissionDenied _ code details => systemReason details code
  | .resourceExhausted _ code details => systemReason details code
  | .inappropriateType _ code details => systemReason details code
  | .noSuchThing _ code details => systemReason details code
  | .unexpectedEof => "unexpected end of file".toList
  | .userError message => message.toList

/-- Runs an action, its error put into a chain. -/
def attempt {α : Type} (report : Text → List Text) (action : IO α) : Effect α := do
  match ← action.toBaseIO with
  | .ok value => return value
  | .error error => throw (report (reason error))

/-! ## The clock -/

/-- The fields of the local time. -/
def clockFields : IO ClockFields := do
  let now ← Std.Time.PlainDateTime.now
  let year : Int := now.date.year
  let shown := now.time.second.val.toNat
  let leap := shown - 59
  return ⟨year, now.date.month.val.toNat, now.date.day.val.toNat, now.time.hour.val.toNat,
    now.time.minute.val.toNat, shown - leap, now.time.nanosecond.val.toNat + leap * 1000000000⟩

/-- The local time. -/
def clock : IO Timestamp := do
  match Timestamp.ofFields? (← clockFields) with
  | some now => return now
  | none => throw (IO.userError "the clock shows no date")

/-- The local time in front of a log line. -/
def logTime : IO Text := do
  let t ← clockFields
  return Layout.integer t.year ++ '-' :: padDigits 2 t.month ++ '-' :: padDigits 2 t.day ++
    'T' :: padDigits 2 t.hour ++ ':' :: padDigits 2 t.minute ++ ':' :: padDigits 2 t.second ++
    '.' :: padDigits 6 (t.nanosecond / 1000)

/-! ## Streams -/

/-- Puts bytes out. -/
def send (stream : IO.FS.Stream) (bytes : Bytes) : IO Unit := do
  stream.write ⟨bytes.toArray⟩
  stream.flush

/-- Shows an event, if the filter does. -/
def report (filter : Log.Filter) (event : Log.Event) : IO Unit := do
  if filter.shows event then
    let time ← logTime
    send (← IO.getStderr) (Utf8.encode (time ++ ' ' :: event.line ++ ['\n']))

/-- Carries out acts. What they read has been read before. -/
def perform (filter : Log.Filter) : List Act → Effect Unit
  | [] => return ()
  | .read _ :: rest => perform filter rest
  | .log event :: rest => do
    attempt (fun reason => [reason]) (report filter event)
    perform filter rest
  | .write bytes :: rest => do
    attempt (fun reason => [reason]) (do send (← IO.getStdout) bytes)
    perform filter rest

/-- The bytes up to the end of a line, and how the input ended if it did. -/
partial def readLine (stream : IO.FS.Stream) (under : Bytes) : IO (Bytes × Option Ending) := do
  match ← (stream.read 1).toBaseIO with
  | .error error => return (under.reverse, some (.broken (reason error)))
  | .ok bytes =>
    match bytes.toList with
    | [] => return (under.reverse, some .finished)
    | b :: _ =>
      if b = lineFeed then
        return ((b :: under).reverse, none)
      else
        readLine stream (b :: under)

/-! ## Commands -/

/-- Makes one directory unless it is there. -/
def makeDirectory (path : String) : IO Unit := do
  match ← (IO.FS.createDir path).toBaseIO with
  | .ok () => return ()
  | .error (.noFileOrDirectory name code details) => throw (.noFileOrDirectory name code details)
  | .error error =>
    match ← (IO.FS.createDirAll path).toBaseIO with
    | .ok () => return ()
    | .error _ => throw error

/-- Makes a directory and those on the way to it. -/
partial def makeDirectories (absolute : Bool) (names : List Text) : IO Unit := do
  let path := String.ofList ((if absolute then ['/'] else []) ++ ['/'].intercalate names)
  match ← (makeDirectory path).toBaseIO with
  | .ok () => return ()
  | .error (.noFileOrDirectory name code details) =>
    if Path.parent names = [] then
      throw (.noFileOrDirectory name code details)
    else
      makeDirectories absolute (Path.parent names)
      makeDirectory path
  | .error error => throw error

/-- Saves a history under its directory, and gives its path. -/
def save (config : Config) (records : List Record) : Effect Text := do
  let dir := config.historyDir
  let now ← attempt (fun reason => [reason]) clock
  attempt (fun reason => Session.saveFailure (SaveError.directoryChain dir reason))
    (makeDirectories (Path.isAbsolute dir) (Path.names dir))
  let path := savePath dir now
  let handle ← attempt (fun reason => Session.saveFailure (SaveError.fileChain path reason))
    (IO.FS.Handle.mk (String.ofList path) .writeNew)
  attempt (fun reason => Session.saveFailure (SaveError.contentChain path reason)) do
    handle.write ⟨(History.bytes records).toArray⟩
    handle.flush
  return path

/-- The part of a session that reads lines. -/
partial def converse (filter : Log.Filter) (stream : IO.FS.Stream) (calculator : Calculator) :
    Effect Ledger := do
  perform filter [.print Session.prompt]
  let (line, ended) ← attempt (fun reason => [reason]) (readLine stream [])
  match ended, line with
  | some (.broken reason), _ =>
    perform filter (Session.closing line (.broken reason))
    return calculator.ledger
  | some .finished, [] =>
    perform filter (Session.closing [] .finished)
    return calculator.ledger
  | _, _ =>
    let turn := Session.turn calculator line
    perform filter turn.acts
    if turn.goesOn then
      converse filter stream turn.calculator
    else
      return turn.calculator.ledger

/-- A session. -/
def converseAndSave (config : Config) (filter : Log.Filter) : Effect Unit := do
  let ledger ← converse filter (← IO.getStdin) .new
  let path ← save config ledger.toList
  perform filter (Session.savedActs path ledger.size)

/-- A command of the built-in registry. -/
def runCommand (config : Config) (filter : Log.Filter) (name : CommandName) : Effect Unit := do
  perform filter [.log (.commandStarted name)]
  match name with
  | .calculator => converseAndSave config filter
  | .menu => perform filter (Menu.acts (Registry.menuEntries config))

/-- Runs with settings; gives the exit code. -/
def runSettings (settings : Program.Settings) (environment : Program.Environment) : IO UInt32 := do
  let filter := Program.filterOf settings environment
  let result : Except CommandError Unit ←
    match CommandName.parse settings.command with
    | .error error => pure (.error error)
    | .ok name => do
      let result ← (runCommand settings.config filter name).run
      pure (result.mapError .failed)
  match result with
  | .ok () => return 0
  | .error error =>
    send (← IO.getStderr) (Utf8.encode (Program.errorReport error))
    return 1

/-- The variables that the program looks at. -/
def readEnvironment : IO Program.Environment := do
  let basePath ← IO.getEnv "CALCULATOR_BASE_PATH"
  let logLevel ← IO.getEnv "CALCULATOR_LOG_LEVEL"
  let logFilter ← IO.getEnv "RUST_LOG"
  return ⟨basePath.map String.toList, logLevel.map String.toList, logFilter.map String.toList⟩

/-- The whole program; gives the exit code. -/
def runProgram (arguments : List String) : IO UInt32 := do
  let environment ← readEnvironment
  match Program.readArguments (arguments.map String.toList) environment with
  | .error .help =>
    send (← IO.getStdout) (Program.printedHelp environment)
    return 0
  | .error .version =>
    send (← IO.getStdout) (Utf8.encode Program.versionText)
    return 0
  | .error (.mistake error) =>
    send (← IO.getStderr) (Utf8.encode (error.printedHeadline ++ ['\n']))
    return 2
  | .ok settings => runSettings settings environment

end Abacus.Outer

/-- The calculator with a history, on the command line. -/
def main (arguments : List String) : IO UInt32 :=
  Abacus.Outer.runProgram arguments
