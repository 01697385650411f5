import Abacus.Command.Menu
import Abacus.Log.Filter
import Abacus.Program.Help

/-!
# Runs of the program

A whole run: arguments and environment choose a command, the command runs on the input, and the
log and a failure go to the error stream. The exit code is 0 for success, help and version, 2 for
a mistake in the arguments, and 1 for a command that failed.
-/

namespace Abacus.Program

/-- What a run is given. -/
structure Invocation where
  arguments : List Text
  environment : Environment
  input : Bytes
  ending : Ending
  room : Room
  tree : FileTree
  now : Timestamp

/-- What a run leaves behind. The error stream is without the times in front of log lines. -/
structure Run where
  exit : Nat
  output : Bytes
  errorText : Text
  tree : FileTree

/-! ## Errors -/

/-- A numbered cause. -/
def numberedCause (number : Nat) (cause : Text) : Text :=
  '\n' :: Session.padLeft 5 (toDigits number) ++ ": ".toList ++ indentBreaks 7 cause

/-- Numbered causes, from a number on. -/
def numberedCauses (number : Nat) : List Text → Text
  | [] => []
  | cause :: causes => numberedCause number cause ++ numberedCauses (number + 1) causes

/-- The causes behind an error; one alone has no number. -/
def causesText : List Text → Text
  | [] => []
  | [cause] => "\n\nCaused by:\n    ".toList ++ indentBreaks 4 cause
  | causes => "\n\nCaused by:".toList ++ numberedCauses 0 causes

/-- The report of a command that failed. -/
def errorReport (error : CommandError) : Text :=
  "Error: ".toList ++ error.message ++ causesText error.causes ++ ['\n']

/-! ## Runs -/

/-- The lines of the events that a filter shows. -/
def logText (filter : Log.Filter) (events : List Log.Event) : Text :=
  (events.filter filter.shows).flatMap fun event => event.line ++ ['\n']

/-- The execution that settings ask for, in the built-in registry. -/
def execution (settings : Settings) (invocation : Invocation) : Execution :=
  (Registry.builtIn settings.config).execute settings.command
    ⟨invocation.input, invocation.ending, invocation.room, invocation.tree, invocation.now⟩

/-- The filter that settings and environment ask for. -/
def filterOf (settings : Settings) (environment : Environment) : Log.Filter :=
  .choose environment.logFilter settings.config.level

/-- A run with settings. -/
def runWith (settings : Settings) (invocation : Invocation) : Run :=
  let done := execution settings invocation
  let log := logText (filterOf settings invocation.environment) done.events
  match done.result with
  | .ok () => ⟨0, done.output, log, done.tree⟩
  | .error error => ⟨1, done.output, log ++ errorReport error, done.tree⟩

/-- A whole run. -/
def run (invocation : Invocation) : Run :=
  match readArguments invocation.arguments invocation.environment with
  | .error .help => ⟨0, printedHelp invocation.environment, [], invocation.tree⟩
  | .error .version => ⟨0, Utf8.encode versionText, [], invocation.tree⟩
  | .error (.mistake error) => ⟨2, [], error.printedHeadline ++ ['\n'], invocation.tree⟩
  | .ok settings => runWith settings invocation

end Abacus.Program
