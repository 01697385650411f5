import Abacus.Log.Pattern.Depth
import Abacus.Log.Pattern.Escape

/-!
# Classes

A class lists characters between brackets: single ones, ranges whose ends are in order, named
classes, and other classes, with operators between the lists. Dashes at its front and a bracket that
would close it at once are characters of it. In bytes nothing is negated, as that would add bytes
beyond ASCII.
-/

namespace Abacus.Log.Pattern

/-! ## Members -/

/-- One item of a class, and what is left. -/
def item? (mode : Mode) (cs : Text) : Option (Item × Text) :=
  let found := match cs with
    | [] => none
    | '\\' :: rest => escape? mode rest
    | c :: rest => some (.char c.toNat, rest)
  found.filter fun
    | (.char code, _) => mode.hasMember code
    | (.several, _) => true

/-- The ends of a range are characters in order. -/
def isRange : Item → Item → Bool
  | .char a, .char b => a ≤ b
  | _, _ => false

/-- What is left behind an item or a range. -/
def member? (mode : Mode) (cs : Text) : Option Text :=
  match item? mode cs with
  | none => none
  | some (first, rest) =>
    match mode.skip rest with
    | '-' :: rest' =>
      if mode.beyondDash rest' ∈ [some ']', some '-'] then some ('-' :: rest')
      else
        match item? mode (mode.skip rest') with
        | some (last, rest'') => if isRange first last then some rest'' else none
        | none => none
    | rest' => some rest'

/-- The names of classes that may stand in a class. -/
def classNames : List Text :=
  ["alnum".toList, "alpha".toList, "ascii".toList, "blank".toList, "cntrl".toList, "digit".toList,
    "graph".toList, "lower".toList, "print".toList, "punct".toList, "space".toList,
    "upper".toList, "word".toList, "xdigit".toList]

/-- A named class whose bracket is read: whether it is negated, and what is left. -/
def namedClass? (cs : Text) : Option (Bool × Text) :=
  match cs with
  | ':' :: rest =>
    let negated := rest.head? = some '^'
    match (if negated then rest.drop 1 else rest).span (· ≠ ':') with
    | (name, ':' :: ']' :: rest') => if name ∈ classNames then some (negated, rest') else none
    | _ => none
  | _ => none

/-- A named class may stand in a class. -/
def allowsNamed (mode : Mode) (negated : Bool) : Bool :=
  if mode.bytes then !negated else !mode.caseless

/-! ## Open classes -/

/-- What is read of one of the classes around a place. -/
structure OpenClass where
  /-- How deep what stands in front of the last operator is. -/
  before : Option Nat
  /-- The members behind it. -/
  members : Bunch
  /-- Nothing but dashes is read. -/
  fresh : Bool

namespace OpenClass

/-- Nothing is read. -/
def start : OpenClass :=
  ⟨none, .empty, true⟩

/-- One member more, of some depth. -/
def add (inner : OpenClass) (depth : Nat) : OpenClass :=
  ⟨inner.before, inner.members.add depth, false⟩

/-- One dash more at the front. -/
def addDash (inner : OpenClass) : OpenClass :=
  ⟨inner.before, inner.members.add 0, true⟩

/-- How deep a list of members is, with the operators in it. -/
def total (inner : OpenClass) : Nat :=
  match inner.before with
  | none => inner.members.total
  | some depth => max depth inner.members.total + 1

/-- An operator follows. -/
def operator (inner : OpenClass) : OpenClass :=
  ⟨some inner.total, .empty, false⟩

/-- How deep the class is. -/
def depth (inner : OpenClass) : Nat :=
  inner.total + 1

/-- A closing bracket would be the first character. -/
def isEmpty (inner : OpenClass) : Bool :=
  inner.fresh && inner.members.count == 0

end OpenClass

/-! ## Classes -/

/-- What is left of a class behind its opening bracket and a negation. -/
def opened? (mode : Mode) (cs : Text) : Option Text :=
  match mode.skip cs with
  | '^' :: rest => if mode.bytes then none else some rest
  | rest => some rest

/-- Reads a class on, inside other classes, up to its end: how deep it is, and what is left. -/
def classRest? (mode : Mode) : Nat → List OpenClass → OpenClass → Text → Option (Nat × Text)
  | 0, _, _, _ => none
  | fuel + 1, around, inner, cs =>
    let member (cs' : Text) : Option (Nat × Text) :=
      (member? mode cs').bind fun rest => classRest? mode fuel around (inner.add 0) rest
    match mode.skip cs with
    | [] => none
    | ']' :: rest =>
      if inner.isEmpty then
        if mode.hasLiterals then classRest? mode fuel around (inner.add 0) rest else none
      else
        match around with
        | [] => some (inner.depth, rest)
        | outer :: around' => classRest? mode fuel around' (outer.add inner.depth) rest
    | '[' :: rest =>
      match namedClass? rest with
      | some (negated, rest') =>
        if allowsNamed mode negated then classRest? mode fuel around (inner.add 0) rest' else none
      | none =>
        (opened? mode rest).bind fun rest' => classRest? mode fuel (inner :: around) .start rest'
    | '-' :: rest =>
      if inner.fresh then
        if mode.hasLiterals then classRest? mode fuel around inner.addDash rest else none
      else
        match rest with
        | '-' :: rest' => classRest? mode fuel around inner.operator rest'
        | _ => member ('-' :: rest)
    | '&' :: '&' :: rest => classRest? mode fuel around inner.operator rest
    | '~' :: '~' :: rest => classRest? mode fuel around inner.operator rest
    | rest => member rest

/-- A class behind its opening bracket: how deep it is, and what is left. -/
def class? (mode : Mode) (cs : Text) : Option (Nat × Text) :=
  (opened? mode cs).bind fun rest => classRest? mode (rest.length + 1) [] .start rest

end Abacus.Log.Pattern
