import Abacus.Text.Blank
import Abacus.Text.Lowercase

/-!
# Command names

The commands there are. A text names one if its lower case, without the blanks around it, is the
name.
-/

namespace Abacus

/-- The name of a command. -/
inductive CommandName where
  | calculator
  | menu
  deriving DecidableEq

namespace CommandName

/-- The names in their order of listing. -/
def all : List CommandName :=
  [calculator, menu]

/-- The name as it is written. -/
def text : CommandName → Text
  | calculator => "calculator".toList
  | menu => "menu".toList

/-- The place of a name in the order of listing. -/
def rank : CommandName → Nat
  | calculator => 0
  | menu => 1

/-- The name that a text gives. -/
def ofText? (text : Text) : Option CommandName :=
  let word := lowercase (trim text)
  if word = calculator.text then some calculator
  else if word = menu.text then some menu
  else none

theorem ofText?_text (name : CommandName) : ofText? name.text = some name := by
  cases name <;> decide

end CommandName

end Abacus
