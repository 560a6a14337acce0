/-!
# Instants and the calendar

An `Instant` counts seconds from the start of 1970 in UTC, with a fraction in nanoseconds. A fraction of
a whole second or more is a leap second, and only the last second of a minute may have one. The calendar
is the Gregorian one, extended to all years.
-/

namespace Credentials

/-- A moment in UTC with nanosecond precision. -/
structure Instant where
  /-- Whole seconds since the start of 1970. -/
  seconds : Int
  /-- The fraction; from `1000000000` on it lies in a leap second. -/
  nanos : Nat
  /-- A leap second is one second long. -/
  nanos_lt : nanos < 2000000000
  /-- Only the last second of a minute is followed by a leap second. -/
  leap : 1000000000 ≤ nanos → seconds % 60 = 59
deriving DecidableEq

/-- A date of the Gregorian calendar. -/
structure Date where
  year : Int
  month : Nat
  day : Nat
deriving DecidableEq

namespace Date

/-- Whether a year has a 29th of February. -/
def isLeapYear (y : Int) : Bool := y % 4 == 0 && (y % 100 != 0 || y % 400 == 0)

/-- The length of a month. -/
def daysInMonth (y : Int) (m : Nat) : Nat :=
  if m = 2 then (if isLeapYear y then 29 else 28)
  else if m = 4 ∨ m = 6 ∨ m = 9 ∨ m = 11 then 30
  else 31

/-- Whether a date exists. -/
def isValid (d : Date) : Bool :=
  1 ≤ d.month && d.month ≤ 12 && 1 ≤ d.day && d.day ≤ daysInMonth d.year d.month

/--
Days from the start of 1970. Years are counted from March, so that the day added in leap years is the
last of its year, and the months from March on start at `(153 m + 2) / 5`.
-/
def toDays (d : Date) : Int :=
  let y := if d.month ≤ 2 then d.year - 1 else d.year
  let m : Int := if d.month ≤ 2 then d.month + 9 else (d.month : Int) - 3
  365 * y + y / 4 - y / 100 + y / 400 + (153 * m + 2) / 5 + d.day - 1 - 719468

/-- The date of a day counted from the start of 1970. -/
def ofDays (days : Int) : Date :=
  let z := days + 719468
  let era := z / 146097
  let dayOfEra := z % 146097
  let yearOfEra := (dayOfEra - dayOfEra / 1460 + dayOfEra / 36524 - dayOfEra / 146096) / 365
  let dayOfYear := dayOfEra - (365 * yearOfEra + yearOfEra / 4 - yearOfEra / 100)
  let m := (5 * dayOfYear + 2) / 153
  let day := dayOfYear - (153 * m + 2) / 5 + 1
  let month := if m < 10 then m + 3 else m - 9
  ⟨yearOfEra + era * 400 + (if month ≤ 2 then 1 else 0), month.toNat, day.toNat⟩

end Date

namespace Instant

/-- The instant of a count of seconds and a fraction, if it is one. -/
def ofParts? (seconds : Int) (nanos : Nat) : Option Instant :=
  if h : nanos < 2000000000 ∧ (1000000000 ≤ nanos → seconds % 60 = 59) then
    some ⟨seconds, nanos, h.1, h.2⟩
  else none

/-- The date on which an instant falls. -/
def date (i : Instant) : Date := Date.ofDays (i.seconds / 86400)

/-- The year in which an instant falls. -/
def year (i : Instant) : Int := i.date.year

/-- The second of the day in which an instant falls. -/
def secondOfDay (i : Instant) : Nat := (i.seconds % 86400).toNat

end Instant

end Credentials
