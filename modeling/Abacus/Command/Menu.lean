import Abacus.Command.Registry
import Abacus.Session

/-!
# The menu and the built-in registry

The menu prints the commands it was made with. The built-in registry holds the sessions and a menu
of the two.
-/

namespace Abacus

namespace Menu

/-- What the menu is said to do. -/
def description : Text :=
  "List available commands".toList

/-- A text at the left end of a column of some width. -/
def padRight (width : Nat) (text : Text) : Text :=
  text ++ List.replicate (width - text.length) ' '

/-- The line of a command. -/
def line (entry : CommandName × Text) : Text :=
  "  ".toList ++ padRight 12 entry.1.text ++ ' ' :: entry.2 ++ ['\n']

/-- The acts of a menu of some commands. -/
def acts (entries : List (CommandName × Text)) : List Act :=
  .print "Available commands:\n".toList :: entries.map fun entry => .print (line entry)

/-- Prints a menu; the input is left alone. -/
def execute (entries : List (CommandName × Text)) (request : Request) : Response :=
  (playActs request.room (acts entries)).response request

/-- The command that prints a menu of some commands. -/
def handler (entries : List (CommandName × Text)) : Handler :=
  ⟨.menu, description, fun _ request => execute entries request, []⟩

end Menu

namespace Registry

/-- The registry of sessions alone. -/
def sessions (config : Config) : Registry :=
  empty.register (Session.handler config)

/-- What the built-in menu lists: the commands registered before it, and itself. -/
def menuEntries (config : Config) : List (CommandName × Text) :=
  (sessions config).describeAll ++ [(.menu, Menu.description)]

/-- The registry of the built-in commands. -/
def builtIn (config : Config) : Registry :=
  (sessions config).register (Menu.handler (menuEntries config))

end Registry

end Abacus
