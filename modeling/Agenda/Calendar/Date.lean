import Agenda.Calendar.Gregorian

/-!
# Calendar dates

A date is a year, a month and a day that exists in it, in a calendar with a first and a last
year. Dates are ordered by their day number, the count of days from 1 January of year 1, which
was a Monday. Arithmetic that leaves the calendar gives nothing.
-/

namespace Agenda.Calendar

/-- The first year of the calendar. -/
def firstYear : Int := -262143

/-- The last year of the calendar. -/
def lastYear : Int := 262142

/-- A date of the calendar. -/
structure Date where
  year : Int
  month : Nat
  day : Nat
  year_mem : firstYear ≤ year ∧ year ≤ lastYear
  day_mem : 1 ≤ day ∧ day ≤ monthLength year month
deriving DecidableEq

namespace Date

/-- The date with the given numbers, if there is one. -/
def ofCivil? (year : Int) (month day : Nat) : Option Date :=
  if h : (firstYear ≤ year ∧ year ≤ lastYear) ∧ 1 ≤ day ∧ day ≤ monthLength year month then
    some ⟨year, month, day, h.1, h.2⟩
  else none

/-- The count of days since 1 January of year 1. -/
def number (date : Date) : Int :=
  daysBeforeYear date.year + daysBeforeMonth date.year date.month + date.day - 1

/-- The date with the given day number, if the calendar has it. -/
def ofNumber? (number : Int) : Option Date :=
  let year := yearOfDayCount number
  let (month, day) := monthAndDay year 11 1 (number - daysBeforeYear year).toNat
  ofCivil? year month day

instance : LT Date := ⟨fun a b => a.number < b.number⟩

instance : LE Date := ⟨fun a b => a.number ≤ b.number⟩

instance (a b : Date) : Decidable (a < b) := inferInstanceAs (Decidable (a.number < b.number))

instance (a b : Date) : Decidable (a ≤ b) := inferInstanceAs (Decidable (a.number ≤ b.number))

/-- The later of two dates. -/
def latest (a b : Date) : Date := if a ≤ b then b else a

/-- The date a number of days later, or earlier for a negative number. -/
def addDays? (date : Date) (days : Int) : Option Date := ofNumber? (date.number + days)

/-- The next day. -/
def next? (date : Date) : Option Date := date.addDays? 1

/-- The day of the week, Monday = 1 to Sunday = 7. -/
def weekday (date : Date) : Nat := (date.number % 7).toNat + 1

/-- The first day of the month after the date's own. -/
def firstOfNextMonth? (date : Date) : Option Date :=
  if date.month < 12 then ofCivil? date.year (date.month + 1) 1
  else ofCivil? (date.year + 1) 1 1

/-- The same month and day some years later. A 29 February that lands in a common year becomes
1 March. -/
def addYears? (date : Date) (years : Nat) : Option Date :=
  (ofCivil? (date.year + years) date.month date.day).or
    (ofCivil? (date.year + years) 3 1)

end Date

/-- The number of the last day in a month: that of the day before the next month starts. The
calendar's final month has no next one. -/
def lastDayOfMonth? (year : Int) (month : Nat) : Option Nat := do
  let first ← Date.ofCivil? year month 1
  let next ← first.firstOfNextMonth?
  let last ← next.addDays? (-1)
  return last.day

end Agenda.Calendar
