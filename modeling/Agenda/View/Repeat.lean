import Agenda.Rule.Text

/-!
# Repeat rules in words

A sentence part for each rule, such as `weekly on Mon, Wed`. A text that is no rule is shown as it
is.
-/

namespace Agenda.View

/-- The name of a day of the week, Monday = 1. -/
def weekdayName? : Nat → Option String
  | 1 => some "Mon"
  | 2 => some "Tue"
  | 3 => some "Wed"
  | 4 => some "Thu"
  | 5 => some "Fri"
  | 6 => some "Sat"
  | 7 => some "Sun"
  | _ => none

/-- The name of a month. -/
def monthName? : Nat → Option String
  | 1 => some "Jan"
  | 2 => some "Feb"
  | 3 => some "Mar"
  | 4 => some "Apr"
  | 5 => some "May"
  | 6 => some "Jun"
  | 7 => some "Jul"
  | 8 => some "Aug"
  | 9 => some "Sep"
  | 10 => some "Oct"
  | 11 => some "Nov"
  | 12 => some "Dec"
  | _ => none

/-- The ending of an ordinal number. -/
def ordinalEnding (n : Nat) : String :=
  if 11 ≤ n % 100 ∧ n % 100 ≤ 13 then "th"
  else
    match n % 10 with
    | 1 => "st"
    | 2 => "nd"
    | 3 => "rd"
    | _ => "th"

/-- A number with its ending. -/
def ordinal (n : Nat) : String := String.ofList (Text.digits n) ++ ordinalEnding n

/-- A day of the month in words. -/
def selectorName : DaySelector → String
  | .last => "last day"
  | .secondToLast => "second-to-last day"
  | .day n => "the " ++ ordinal n

/-- Parts with commas between them. -/
def listed (parts : List String) : String := String.intercalate ", " parts

/-- A rule in words. -/
def describeRule : Rule → String
  | .daily 1 => "every day"
  | .daily interval => "every " ++ String.ofList (Text.digits interval) ++ " days"
  | .yearly => "every year"
  | .weekly weekdays => "weekly on " ++ listed (weekdays.toList.filterMap weekdayName?)
  | .monthly days months =>
    let onDays := "monthly on " ++ listed (days.toList.map selectorName)
    if months.isEmpty then onDays
    else onDays ++ " in " ++ listed (months.toList.filterMap monthName?)

/-- The repeat text of a task in words. -/
def describeRepeat (repeatText : String) : String :=
  if repeatText = "" then "once"
  else
    match Rule.parse repeatText with
    | .ok rule => describeRule rule
    | .error _ => repeatText

end Agenda.View
