import Agenda.Calendar.DateText

/-!
# Distances in words

How far a day lies from the current one, told roughly: in days below a week, then in weeks, months
and years, each unit taken alone.
-/

namespace Agenda.View

open Calendar

/-- A count of days, at least one, in words. -/
def roughly (days : Nat) : String :=
  let counted (n : Nat) (unit : String) := String.ofList (Text.digits n) ++ " " ++ unit
  if 547 < days then counted (max (days / 365) 2) "years"
  else if 345 < days then "a year"
  else if 45 < days then counted (max (days / 30) 2) "months"
  else if 29 < days then "a month"
  else if 11 ≤ days then counted (max (days / 7) 2) "weeks"
  else if 7 ≤ days then "a week"
  else if 2 ≤ days then counted days "days"
  else "a day"

/-- Where a stored date lies from the current day. -/
def relativeDay (date : String) (today : Date) : String :=
  match Date.ofText? date with
  | none => "invalid date"
  | some day =>
    if day = today then "today"
    else
      let distance := roughly (day.number - today.number).natAbs
      if today < day then "in " ++ distance else distance ++ " ago"

end Agenda.View
