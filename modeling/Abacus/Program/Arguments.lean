import Abacus.CommandName
import Abacus.Config
import Abacus.Terminal
import Abacus.Text.Lines

/-!
# Arguments of the program

Arguments are taken from left to right. An option whose value stands in an argument of its own is
held back until what follows it is seen, and is settled by the next option, by the next positional
argument, or at the end; an attached value is settled at once. Asking for help or the version, and
a mistake, stop the reading where they are met. Behind `--` everything is positional. The
environment speaks only for options that the arguments leave open.

A mistake is worded for a terminal, with what the user wrote set off. What is for the eye in the
wording may be cut short by a value that holds controls itself.
-/

namespace Abacus.Program

/-- What takes a value. -/
inductive Parameter where
  | basePath
  | logLevel
  | command
  deriving DecidableEq

/-- What takes no value. -/
inductive Flag where
  | help
  | version
  deriving DecidableEq

/-- A parameter as messages show it. -/
def Parameter.usage : Parameter → Text
  | basePath => "--base-path <BASE_PATH>".toList
  | logLevel => "--log-level <LOG_LEVEL>".toList
  | command => "[COMMAND]".toList

/-- A flag as messages show it. -/
def Flag.usage : Flag → Text
  | help => "--help".toList
  | version => "--version".toList

/-- A mistake in the arguments. -/
inductive ArgumentError where
  /-- The value is none of those that the parameter can have. -/
  | invalidValue (parameter : Parameter) (value : Text)
  /-- The parameter stands without a value. -/
  | missingValue (parameter : Parameter)
  /-- The argument means nothing. -/
  | unknown (argument : Text)
  /-- The parameter has a value already. -/
  | repeated (parameter : Parameter)
  /-- The flag has a value. -/
  | unexpectedValue (flag : Flag) (value : Text)
  deriving DecidableEq

namespace ArgumentError

/-- The wording of a mistake on a terminal. -/
def message : ArgumentError → Text
  | invalidValue parameter value =>
    "error: invalid value '".toList ++ Terminal.emphasised value ++ "' for '".toList ++
      Terminal.emphasised parameter.usage ++ "'".toList
  | missingValue parameter =>
    "error: a value is required for '".toList ++ Terminal.emphasised parameter.usage ++
      "' but none was supplied".toList
  | unknown argument =>
    "error: unexpected argument '".toList ++ Terminal.emphasised argument ++ "' found".toList
  | repeated parameter =>
    "error: the argument '".toList ++ Terminal.emphasised parameter.usage ++
      "' cannot be used multiple times".toList
  | unexpectedValue flag value =>
    "error: unexpected value '".toList ++ Terminal.emphasised value ++ "' for '".toList ++
      Terminal.emphasised flag.usage ++ "' found; no more were expected".toList

/-- The first line of the wording, read as a text. -/
def headline (error : ArgumentError) : Text :=
  firstLine (Terminal.plain error.message)

/-- The first line of the wording, as an output leaves it. -/
def printedHeadline (error : ArgumentError) : Text :=
  firstLine (Utf8.decodeLossy (Terminal.passed (Utf8.encode error.message)))

end ArgumentError

/-- Why the reading of arguments stopped. -/
inductive Stop where
  | help
  | version
  | mistake (error : ArgumentError)
  deriving DecidableEq

/-! ## Values -/

/-- The values that parameters have. -/
structure Choices where
  basePath : Option Text
  logLevel : Option Log.Level
  command : Option Text
  deriving DecidableEq

namespace Choices

/-- No parameter has a value. -/
def blank : Choices :=
  ⟨none, none, none⟩

/-- A parameter has a value. -/
def has (choices : Choices) : Parameter → Bool
  | .basePath => choices.basePath.isSome
  | .logLevel => choices.logLevel.isSome
  | .command => choices.command.isSome

/-- Gives a parameter a value, whether it has one or not. -/
def assign (choices : Choices) (parameter : Parameter) (value : Text) :
    Except ArgumentError Choices :=
  match parameter with
  | .basePath =>
    if value = [] then .error (.missingValue .basePath)
    else .ok ⟨value, choices.logLevel, choices.command⟩
  | .logLevel =>
    if value = [] then .error (.missingValue .logLevel)
    else
      match Log.Level.ofText? true value with
      | some level => .ok ⟨choices.basePath, level, choices.command⟩
      | none => .error (.invalidValue .logLevel value)
  | .command => .ok ⟨choices.basePath, choices.logLevel, value⟩

/-- Gives a parameter its only value. -/
def set (choices : Choices) (parameter : Parameter) (value : Text) :
    Except ArgumentError Choices :=
  if choices.has parameter then .error (.repeated parameter) else choices.assign parameter value

end Choices

/-! ## Reading -/

/-- A parameter that is not settled yet. -/
inductive Pending where
  | nothing
  /-- It stands without a value so far. -/
  | awaiting (parameter : Parameter)
  /-- Its value is known and not judged. -/
  | holding (parameter : Parameter) (value : Text)
  deriving DecidableEq

/-- How far the reading of arguments is. -/
structure Reading where
  choices : Choices
  pending : Pending
  /-- A positional argument was met. -/
  hasPositional : Bool
  /-- Only positional arguments follow. -/
  onlyPositional : Bool
  deriving DecidableEq

namespace Reading

/-- Before the first argument. -/
def start : Reading :=
  ⟨.blank, .nothing, false, false⟩

/-- Settles what is pending. -/
def settle (reading : Reading) : Except Stop Reading :=
  match reading.pending with
  | .nothing => .ok reading
  | .awaiting parameter => .error (.mistake (.missingValue parameter))
  | .holding parameter value =>
    match reading.choices.set parameter value with
    | .ok choices => .ok ⟨choices, .nothing, reading.hasPositional, reading.onlyPositional⟩
    | .error error => .error (.mistake error)

/-- Leaves something pending in place of what was. -/
def hold (reading : Reading) (pending : Pending) : Reading :=
  ⟨reading.choices, pending, reading.hasPositional, reading.onlyPositional⟩

/-- An option: with an attached value it is settled at once. -/
def takeOption (reading : Reading) (parameter : Parameter) (attached : Option Text) :
    Except Stop Reading :=
  match reading.settle, attached with
  | .error stop, _ => .error stop
  | .ok settled, none => .ok (settled.hold (.awaiting parameter))
  | .ok settled, some value => (settled.hold (.holding parameter value)).settle

/-- A flag: what is pending comes first, unless the flag has a value. -/
def takeFlag (reading : Reading) (flag : Flag) (attached : Option Text) : Except Stop Reading :=
  match attached with
  | some value => .error (.mistake (.unexpectedValue flag value))
  | none =>
    match reading.settle with
    | .error stop => .error stop
    | .ok _ => .error (match flag with | .help => .help | .version => .version)

/-- A positional argument; there is room for one. -/
def takePositional (reading : Reading) (argument : Text) : Except Stop Reading :=
  if reading.hasPositional then
    .error (.mistake (.unknown argument))
  else
    match reading.settle with
    | .error stop => .error stop
    | .ok settled =>
      .ok ⟨settled.choices, .holding .command argument, true, settled.onlyPositional⟩

/-- An argument that is no option: the value that an option waits for, or a positional one. -/
def takeValue (reading : Reading) (argument : Text) : Except Stop Reading :=
  match reading.pending with
  | .awaiting parameter => .ok (reading.hold (.holding parameter argument))
  | _ => reading.takePositional argument

/-- The value behind the first equals sign, if there is one. -/
def attachment? : Text → Option Text
  | [] => none
  | _ :: value => some value

/-- An argument behind two dashes. -/
def takeLong (reading : Reading) (body : Text) : Except Stop Reading :=
  let (name, rest) := body.span (· ≠ '=')
  if name = "base-path".toList then reading.takeOption .basePath (attachment? rest)
  else if name = "log-level".toList then reading.takeOption .logLevel (attachment? rest)
  else if name = "help".toList then reading.takeFlag .help (attachment? rest)
  else if name = "version".toList then reading.takeFlag .version (attachment? rest)
  else .error (.mistake (.unknown ('-' :: '-' :: name)))

/-- The value attached to a short option; an equals sign in front is not part of it. -/
def shortAttachment? : Text → Option Text
  | [] => none
  | '=' :: value => some value
  | value => some value

/-- An argument behind one dash. -/
def takeShort (reading : Reading) (letter : Char) (rest : Text) : Except Stop Reading :=
  if letter = 'b' then reading.takeOption .basePath (shortAttachment? rest)
  else if letter = 'l' then reading.takeOption .logLevel (shortAttachment? rest)
  else if letter = 'h' then reading.takeFlag .help none
  else if letter = 'V' then reading.takeFlag .version none
  else .error (.mistake (.unknown ['-', letter]))

/-- One argument. -/
def take (reading : Reading) (argument : Text) : Except Stop Reading :=
  if reading.onlyPositional then
    reading.takePositional argument
  else
    match argument with
    | ['-', '-'] => .ok ⟨reading.choices, reading.pending, reading.hasPositional, true⟩
    | '-' :: '-' :: body => reading.takeLong body
    | '-' :: letter :: rest => reading.takeShort letter rest
    | _ => reading.takeValue argument

/-- All arguments. -/
def takeAll (reading : Reading) : List Text → Except Stop Choices
  | [] => reading.settle.map Reading.choices
  | argument :: arguments =>
    match reading.take argument with
    | .error stop => .error stop
    | .ok reading' => reading'.takeAll arguments

end Reading

/-! ## Environment and defaults -/

/-- The variables that the program looks at. -/
structure Environment where
  basePath : Option Text
  logLevel : Option Text
  logFilter : Option Text

/-- What the program is asked to do. -/
structure Settings where
  command : Text
  config : Config

/-- Gives a parameter the value of a variable unless it has one. -/
def Choices.supply (choices : Choices) (parameter : Parameter) (setting : Option Text) :
    Except ArgumentError Choices :=
  match setting with
  | some value => if choices.has parameter then .ok choices else choices.assign parameter value
  | none => .ok choices

/-- The values of the variables, the base path first. -/
def Choices.supplyAll (choices : Choices) (environment : Environment) :
    Except ArgumentError Choices :=
  match choices.supply .basePath environment.basePath with
  | .error error => .error error
  | .ok choices' => choices'.supply .logLevel environment.logLevel

/-- The values that are left open get their defaults. -/
def Choices.settings (choices : Choices) : Settings :=
  ⟨choices.command.getD CommandName.calculator.text,
    ⟨choices.basePath.getD Config.standard.basePath,
      choices.logLevel.getD Config.standard.level⟩⟩

/-- What arguments and environment ask for. -/
def readArguments (arguments : List Text) (environment : Environment) : Except Stop Settings :=
  match Reading.start.takeAll arguments with
  | .error stop => .error stop
  | .ok choices =>
    match choices.supplyAll environment with
    | .error error => .error (.mistake error)
    | .ok choices' => .ok choices'.settings

end Abacus.Program
