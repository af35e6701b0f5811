import Agenda.DateExpression.Fault
import Agenda.DateExpression.Name
import Agenda.DateExpression.TimeOfDay

/-!
# Dates relative to a day

What a date in English says before the current day is known, and the date it comes to on a given
day. An expression may come to no date, as 30 February does. A time of the day matters in three
ways: it has to exist, it may fall on another date in universal time, and at the current weekday it
tells whether the last one is today.
-/

namespace Agenda

open Calendar

namespace DateExpression

/-- Which way an expression looks from the current day. -/
inductive Direction where
  | here
  | next
  | last
deriving DecidableEq, Repr

/-- The direction that a word gives. -/
def direction? : List Char → Option Direction
  | ['n', 'e', 'x', 't'] => some .next
  | ['l', 'a', 's', 't'] => some .last
  | _ => none

/-- The integer that the 32 bits of a number stand for with a sign. -/
def signed32 (n : Int) : Int := n.bmod Text.limit32

/-- A distance in time. -/
inductive Span where
  | seconds (count : Int)
  | days (count : Int)
  | months (count : Int)
deriving DecidableEq, Repr

/-- A number of some unit. Months are counted in 32 bits. -/
def Span.ofUnits (count : Int) : TimeUnit → Span
  | .second => seconds count
  | .minute => seconds (60 * count)
  | .hour => seconds (3600 * count)
  | .day => days count
  | .week => days (7 * count)
  | .month => months count
  | .year => months (signed32 (12 * count))

/-- What tells the day. -/
inductive Day where
  /-- A distance from the current day. -/
  | distance (span : Span)
  /-- A day of the week, Monday = 1 to Sunday = 7. -/
  | dayOfWeek (direction : Direction) (weekday : Nat)
  /-- A day of the current year or one next to it. -/
  | dayOfYear (direction : Direction) (month day : Nat)
  /-- A date with its year. -/
  | exact (year : Int) (month day : Nat)
deriving DecidableEq, Repr

end DateExpression

/-- A date in English: a day, the current one if none is told, and perhaps a time. -/
structure DateExpression where
  day : Option DateExpression.Day
  time : Option DateExpression.TimeOfDay
deriving DecidableEq, Repr

namespace DateExpression

/-- The date of a time, if there is one, on some date. -/
def dateAt? (time : Option TimeOfDay) (date : Date) : Option Date :=
  match time with
  | none => some date
  | some time => time.on? date

/-- A day of the week is looked for ahead unless the direction is `last`, starting from the week of
the current day. Today counts in both directions, but a later time of today is not the last one. -/
def dayOfWeek? (today : Date) (direction : Direction) (weekday : Nat) (time : Option TimeOfDay) :
    Option Date := do
  let date ← today.addDays? ((weekday : Int) - today.weekday)
  match direction with
  | .here | .next => if date < today then date.addDays? 7 else return date
  | .last =>
    if today < date ∨ date = today ∧ (time.any fun time => 0 < time.seconds) = true then
      date.addDays? (-7)
    else return date

/-- The year and month a number of months from a month. Counted back past the start of the year,
the months of a year go from 13 down to 2, so no January is reached. -/
def shiftMonth (year : Int) (month : Nat) (count : Int) : Int × Nat :=
  let position := (month : Int) - 1 + count
  if 0 ≤ position then (year + position / 12, (position % 12).toNat + 1)
  else
    let back := 12 - position
    (year - back / 12, 13 - (back % 12).toNat)

/-- The same day some months away, or the last day of a month that is too short for it. -/
def addMonths? (date : Date) (count : Int) : Option Date :=
  let (year, month) := shiftMonth date.year date.month count
  Date.ofCivil? year month (min date.day (monthLength year month))

/-- The given month and day of the current year, or of the next or last year if the direction says
so and the day lies on the other side of the current one. -/
def dayOfYear? (today : Date) (direction : Direction) (month day : Nat) : Option Date :=
  (Date.ofCivil? today.year month day).bind fun date =>
    match direction with
    | .here => some date
    | .next => if date < today then Date.ofCivil? (today.year + 1) month day else some date
    | .last => if today < date then Date.ofCivil? (today.year - 1) month day else some date

/-- The date that a date is, or the fault of one that does not exist. -/
def orBadDate (date : Option Date) : Except Fault Date :=
  match date with
  | some date => .ok date
  | none => .error .badDate

/-- The date of a day at a time, from the start of the current day. A distance in seconds says the
time itself, so a time given beside it is ignored. -/
def Day.resolve (today : Date) (time : Option TimeOfDay) : Day → Except Fault Date
  | .distance (.seconds count) => orBadDate (today.addDays? (count / secondsPerDay))
  | .distance (.days count) => orBadDate ((today.addDays? count).bind (dateAt? time))
  | .distance (.months count) =>
    match addMonths? today count with
    | none => .error .badMonth
    | some date => orBadDate (dateAt? time date)
  | .dayOfWeek direction weekday =>
    orBadDate ((dayOfWeek? today direction weekday time).bind (dateAt? time))
  | .dayOfYear direction month day =>
    orBadDate ((dayOfYear? today direction month day).bind (dateAt? time))
  | .exact year month day => orBadDate ((Date.ofCivil? year month day).bind (dateAt? time))

/-- The date of an expression. -/
def resolve (today : Date) (expression : DateExpression) : Except Fault Date :=
  match expression.day with
  | some day => day.resolve today expression.time
  | none =>
    match dateAt? expression.time today with
    | some date => .ok date
    | none => .error .badTime

end DateExpression

end Agenda
