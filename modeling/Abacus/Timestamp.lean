import Abacus.Decimal.Digits
import Abacus.Text.Basic

/-!
# Timestamps and file names

A moment on a wall clock in the Gregorian calendar, extended to all years in range. A leap second
is held as second 59 with a nanosecond of a full second or more, and shows as second 60. The name
of a saved history carries day, month, year within its century, hour, minute and second.
-/

namespace Abacus

/-- A leap year of the Gregorian calendar. -/
def isLeapYear (year : Int) : Bool :=
  year % 4 == 0 && (year % 100 != 0 || year % 400 == 0)

/-- The number of days of a month; none for a month that there is not. -/
def daysInMonth (year : Int) (month : Nat) : Nat :=
  if month = 2 then (if isLeapYear year then 29 else 28)
  else if month ∈ [4, 6, 9, 11] then 30
  else if 1 ≤ month ∧ month ≤ 12 then 31
  else 0

/-- The fields of a moment, whether there is such a moment or not. -/
structure ClockFields where
  year : Int
  month : Nat
  day : Nat
  hour : Nat
  minute : Nat
  second : Nat
  nanosecond : Nat
  deriving DecidableEq

namespace ClockFields

/-- There is such a moment. -/
def isValid (t : ClockFields) : Bool :=
  -262143 ≤ t.year && t.year ≤ 262142 && 1 ≤ t.day && t.day ≤ daysInMonth t.year t.month &&
    t.hour < 24 && t.minute < 60 && t.second < 60 &&
    (t.nanosecond < 1000000000 || (t.second == 59 && t.nanosecond < 2000000000))

end ClockFields

/-- A moment that there is. -/
structure Timestamp where
  fields : ClockFields
  valid : fields.isValid = true

namespace Timestamp

/-- The moment with some fields. -/
def ofFields? (fields : ClockFields) : Option Timestamp :=
  if h : fields.isValid = true then some ⟨fields, h⟩ else none

/-- The year within its century. -/
def yearOfCentury (t : Timestamp) : Nat :=
  (t.fields.year % 100).toNat

/-- The second as a clock shows it. -/
def shownSecond (t : Timestamp) : Nat :=
  t.fields.second + t.fields.nanosecond / 1000000000

/-- Day, month, year of the century, hour, minute and second, two digits each. -/
def stamp (t : Timestamp) : Text :=
  [t.fields.day, t.fields.month, t.yearOfCentury, t.fields.hour, t.fields.minute,
    t.shownSecond].flatMap (padDigits 2)

/-- The name of the file that holds a history saved at a moment. -/
def fileName (t : Timestamp) : Text :=
  "calculator_history_".toList ++ t.stamp ++ ".csv".toList

end Timestamp

end Abacus
