/-!
# The calendar

Days are numbered from 1 January 1970 in the Gregorian calendar, carried back before its adoption.

## Main definitions

* `yearStart` — the number of the first day of a year; `yearOfDay` — the year of a day.
* `monthAndDay`, `ordinalOf` — from the day of a year to month and day, and back.
* `Date` — a day of the years -9999 to 9999.
-/

set_option autoImplicit false

namespace TokenAuthority

/-- Leap years: every fourth year, but of the centuries only every fourth. -/
def isLeapYear (year : Int) : Bool :=
  year % 4 == 0 && (year % 100 != 0 || year % 400 == 0)

/-- The number of days of a year. -/
def daysInYear (year : Int) : Nat := if isLeapYear year then 366 else 365

/-- The number of the first day of a year. The years before it are counted from year 1 on, and
719162 days lie between 1 January of year 1 and 1 January 1970. -/
def yearStart (year : Int) : Int :=
  let y := year - 1
  365 * y + y / 4 - y / 100 + y / 400 - 719162

/-- The year of a day: 400 years have 146097 days, which gives the year up to one. -/
def yearOfDay (day : Int) : Int :=
  let guess := (day + 719162) * 400 / 146097 + 1
  if day < yearStart guess then guess - 1
  else if yearStart (guess + 1) ≤ day then guess + 1
  else guess

/-- The day of its year, from 1 on, of a day. -/
def ordinalOfDay (day : Int) : Nat := (day - yearStart (yearOfDay day)).toNat + 1

/-- The lengths of the months. -/
def monthLengths (leap : Bool) : List Nat :=
  [31, if leap then 29 else 28, 31, 30, 31, 30, 31, 31, 30, 31, 30, 31]

/-- Finds the month that an ordinal falls into, counting on from `month`. -/
def monthAndDayFrom : Nat → List Nat → Nat → Nat × Nat
  | month, [], ordinal => (month, ordinal)
  | month, length :: rest, ordinal =>
    if ordinal ≤ length then (month, ordinal)
    else monthAndDayFrom (month + 1) rest (ordinal - length)

/-- Month and day of a day of the year. -/
def monthAndDay (leap : Bool) (ordinal : Nat) : Nat × Nat :=
  monthAndDayFrom 1 (monthLengths leap) ordinal

/-- The day of the year of a month and a day. -/
def ordinalOf (leap : Bool) (month day : Nat) : Nat :=
  ((monthLengths leap).take (month - 1)).foldr (· + ·) 0 + day

/-- The number of days of a month; zero if there is no such month. -/
def daysInMonth (leap : Bool) (month : Nat) : Nat :=
  if month == 0 then 0 else ((monthLengths leap)[month - 1]?).getD 0

/-- The years that dates and instants may have. -/
def isDatedYear (year : Int) : Bool := -9999 ≤ year && year ≤ 9999

/-- A day of the years -9999 to 9999. -/
structure Date where
  /-- The year. -/
  year : Int
  /-- The day of the year, from 1 on. -/
  ordinal : Nat
  /-- The day is one of the year. -/
  valid : isDatedYear year = true ∧ 1 ≤ ordinal ∧ ordinal ≤ daysInYear year
deriving DecidableEq

/-- The day of the given year and ordinal, if there is one. -/
def Date.ofOrdinal? (year ordinal : Int) : Option Date :=
  if h : isDatedYear year = true ∧ 1 ≤ ordinal.toNat ∧ ordinal.toNat ≤ daysInYear year then
    some ⟨year, ordinal.toNat, h⟩
  else none

end TokenAuthority
