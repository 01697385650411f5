import Abacus.Program.Arguments

/-!
# Help and version

The texts that the program prints about itself. The help is worded for a terminal, with the names
of the options set off, and shows the variables as they are set.
-/

namespace Abacus.Program

/-- The name and version of the program. -/
def versionText : Text :=
  "calcledger 0.1.0\n".toList

/-- The present value of a variable. Its lines below the first stand under the descriptions. -/
def variableNote (name : Text) (value : Option Text) : Text :=
  "[env: ".toList ++ name ++ '=' :: indentBreaks 31 (value.getD []) ++ "]".toList

/-- The short and the long name of an option. -/
def optionNames (short long : Text) : Text :=
  "  ".toList ++ Terminal.emphasised short ++ ", ".toList ++ Terminal.emphasised long

/-- How the program is used, on a terminal. -/
def helpText (environment : Environment) : Text :=
  "An interactive calculator that saves its history to CSV on exit\n\n".toList ++
  "Usage: calcledger [OPTIONS] [COMMAND]\n\n".toList ++
  "Arguments:\n".toList ++
  "  [COMMAND]  Command to run: calculator, menu [default: calculator]\n\n".toList ++
  "Options:\n".toList ++
  optionNames "-b".toList "--base-path".toList ++
  " <BASE_PATH>  Base directory for exported history ".toList ++
  "(files go to <BASE_PATH>/csv_history) ".toList ++
  variableNote "CALCULATOR_BASE_PATH".toList environment.basePath ++ " [default: .]\n".toList ++
  optionNames "-l".toList "--log-level".toList ++
  " <LOG_LEVEL>  Minimum log level: trace, debug, info, warn, error ".toList ++
  variableNote "CALCULATOR_LOG_LEVEL".toList environment.logLevel ++
  " [default: info] [possible values: trace, debug, info, warn, error]\n".toList ++
  optionNames "-h".toList "--help".toList ++ "                   Print help\n".toList ++
  optionNames "-V".toList "--version".toList ++ "                Print version\n".toList

/-- The help, as an output leaves it. -/
def printedHelp (environment : Environment) : Bytes :=
  Terminal.passed (Utf8.encode (helpText environment))

end Abacus.Program
