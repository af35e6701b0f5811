/-!
# The Gregorian year

Leap years, month lengths and the running count of days, for every integer year: the calendar is
extended backwards without a gap, and year 0 is a leap year.
-/

namespace Agenda.Calendar

/-- Every fourth year is a leap year, except three of four century years. -/
def isLeap (year : Int) : Bool :=
  year % 4 == 0 && (year % 100 != 0 || year % 400 == 0)

/-- The number of days in a month, 0 for a number that is no month. -/
def monthLength (year : Int) : Nat → Nat
  | 2 => if isLeap year then 29 else 28
  | 4 | 6 | 9 | 11 => 30
  | 1 | 3 | 5 | 7 | 8 | 10 | 12 => 31
  | _ => 0

/-- The days from 1 January of year 1 to 1 January of the given year. -/
def daysBeforeYear (year : Int) : Int :=
  365 * (year - 1) + (year - 1) / 4 - (year - 1) / 100 + (year - 1) / 400

/-- The days of a year that come before a month. -/
def daysBeforeMonth (year : Int) : Nat → Nat
  | 0 => 0
  | month + 1 => daysBeforeMonth year month + monthLength year month

/-- The year that holds a day, counted from 1 January of year 1. The mean length of a year gives
a first guess, which is off by one at most. -/
def yearOfDayCount (count : Int) : Int :=
  let guess := count * 400 / 146097 + 1
  if count < daysBeforeYear guess then guess - 1
  else if daysBeforeYear (guess + 1) ≤ count then guess + 1
  else guess

/-- The month, starting the search at `month`, and the day in it that lie `rest` days on. -/
def monthAndDay (year : Int) : (months month rest : Nat) → Nat × Nat
  | 0, month, rest => (month, rest + 1)
  | months + 1, month, rest =>
    if rest < monthLength year month then (month, rest + 1)
    else monthAndDay year months (month + 1) (rest - monthLength year month)

end Agenda.Calendar
