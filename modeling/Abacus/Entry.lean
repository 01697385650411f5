import Abacus.Expression
import Abacus.Text.Blank

/-!
# Entries

What a typed line says: a keyword that stands alone, or an expression of three words. The words
decide it, so blanks only separate. Operands are judged before the operator.
-/

namespace Abacus

/-- A word that is obeyed when it stands alone. -/
inductive Keyword where
  | history
  | exit
  deriving DecidableEq

namespace Keyword

/-- The keywords in their order of listing. -/
def all : List Keyword :=
  [history, exit]

/-- The word itself. -/
def text : Keyword → Text
  | history => "history".toList
  | exit => "exit".toList

/-- The keyword of a word. -/
def ofText? (word : Text) : Option Keyword :=
  if word = history.text then some history
  else if word = exit.text then some exit
  else none

theorem ofText?_text (k : Keyword) : ofText? k.text = some k := by
  cases k <;> decide

end Keyword

/-- What a line says. -/
inductive Entry where
  | keyword (keyword : Keyword)
  | expression (expression : Expression)
  deriving DecidableEq

namespace Entry

/-- A word that is refused as an operand, if it is. -/
def refused (word : Text) : List Text :=
  if (Binary64.operand? word).isSome then [] else [word]

/-- What three words say. -/
def ofTriple (left op right : Text) : Except EvalError Entry :=
  match Binary64.operand? left, Binary64.operand? right with
  | some x, some y =>
    match Operator.ofText? op with
    | some operator => .ok (.expression ⟨x, operator, y⟩)
    | none => .error (.invalidOperator op)
  | _, _ => .error (.invalidNumber (refused left ++ refused right))

/-- What a list of words says. -/
def ofWords : List Text → Except EvalError Entry
  | [word] =>
    match Keyword.ofText? word with
    | some k => .ok (.keyword k)
    | none => .error (.invalidFormat 1)
  | [left, op, right] => ofTriple left op right
  | words => .error (.invalidFormat words.length)

/-- What a line says. -/
def read (line : Text) : Except EvalError Entry :=
  ofWords (words line)

end Entry

end Abacus
