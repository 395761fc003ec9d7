/-!
The Gregorian calendar, extended to all years, as a count of days from 1970-01-01. Years are counted
from the first of March, so that a leap day is the last day of its year.
-/

namespace PageBuilder

/-- A day of the calendar. -/
structure CalendarDate where
  year : Int
  month : Nat
  day : Nat
deriving DecidableEq, Repr

def isLeapYear (year : Int) : Bool := year % 4 == 0 && (year % 100 != 0 || year % 400 == 0)

/-- The number of days of a month. -/
def daysInMonth (year : Int) (month : Nat) : Nat :=
  if month = 2 then (if isLeapYear year then 29 else 28)
  else if month = 4 || month = 6 || month = 9 || month = 11 then 30
  else 31

namespace CalendarDate

def isValid (d : CalendarDate) : Bool :=
  1 ≤ d.month && d.month ≤ 12 && 1 ≤ d.day && d.day ≤ daysInMonth d.year d.month

/-- Days from 1970-01-01. -/
def toDays (d : CalendarDate) : Int :=
  let year := if d.month ≤ 2 then d.year - 1 else d.year
  let month := (d.month + 9) % 12
  -- from March on, five months in a row have 153 days
  let dayOfYear := (153 * month + 2) / 5 + d.day - 1
  365 * year + year.fdiv 4 - year.fdiv 100 + year.fdiv 400 + dayOfYear - 719468

/-- The date a number of days after 1970-01-01. -/
def ofDays (days : Int) : CalendarDate :=
  let shifted := days + 719468
  -- an era is 400 years, after which the calendar repeats
  let era := shifted.fdiv 146097
  let dayOfEra := (shifted - era * 146097).toNat
  let yearOfEra :=
    (dayOfEra - dayOfEra / 1460 + dayOfEra / 36524 - dayOfEra / 146096) / 365
  let dayOfYear := dayOfEra - (365 * yearOfEra + yearOfEra / 4 - yearOfEra / 100)
  let month := (5 * dayOfYear + 2) / 153
  { year := era * 400 + yearOfEra + (if month < 10 then 0 else 1)
    month := if month < 10 then month + 3 else month - 9
    day := dayOfYear - (153 * month + 2) / 5 + 1 }

end CalendarDate

end PageBuilder
