import Agenda.Calendar.DateText
import Agenda.Rule.Text

/-!
# The next date of a repeat rule

A rule and an anchor date give a walk through the calendar, forward from the anchor. Each step of
the walk either lands on a date that fits the rule or only moves on, for instance past a month
that the rule leaves out. The next date is the first landing after the current day; a walk that
leaves the calendar or has not got there after `maxSteps` steps finds none.

Stretches that cannot reach past the current day are skipped by arithmetic, not walked.
-/

namespace Agenda

open Calendar

namespace Recurrence

/-- One step of a walk: the date it lands on, if it fits the rule, and where the walk stands
afterwards. -/
structure Step (σ : Type) where
  landing : Option Date
  next : σ

/-- The number of steps after which a search gives up. -/
def maxSteps : Nat := 4096

/-- The first landing after `now` within a number of steps; `step` gives none where the walk
ends. -/
def firstAfter {σ : Type} (step : σ → Option (Step σ)) (now : Date) :
    (steps : Nat) → σ → Option Date
  | 0, _ => none
  | steps + 1, state =>
    match step state with
    | none => none
    | some ⟨some date, next⟩ => if now < date then some date else firstAfter step now steps next
    | some ⟨none, next⟩ => firstAfter step now steps next

/-- The day on which a search day by day starts: what it finds is after both dates. -/
def scanStart? (now anchor : Date) : Option Date := (anchor.latest now).next?

/-! ### Daily rules -/

/-- The first date of a daily walk: one interval after the last multiple that is not after
`now`. -/
def dailyStart? (now anchor : Date) (interval : Nat) : Option Date :=
  let skipped := if anchor < now then (now.number - anchor.number) / interval else 0
  (anchor.addDays? (skipped * interval)).bind fun start => start.addDays? interval

/-- Every date of a daily walk fits. -/
def dailyStep (interval : Nat) (cursor : Option Date) : Option (Step (Option Date)) :=
  cursor.map fun date => ⟨some date, date.addDays? interval⟩

/-! ### Yearly rules -/

/-- The first year step of a yearly walk that can reach past `now`. -/
def yearlyStart (now anchor : Date) : Nat := (max (now.year - anchor.year) 1).toNat

/-- Step `k` of a yearly walk is `k` years after the anchor. Only the first year can meet a
29 February that does not exist, so the later ones are counted from its outcome. -/
def yearlyStep (anchor : Date) (k : Nat) : Option (Step Nat) :=
  some ⟨(anchor.addYears? 1).bind fun first => first.addYears? (k - 1), k + 1⟩

/-! ### Weekly rules -/

/-- A weekly walk looks at every day. -/
def weeklyStep (weekdays : NumberSet Nat) (cursor : Option Date) :
    Option (Step (Option Date)) :=
  cursor.map fun date =>
    ⟨if date.weekday ∈ weekdays then some date else none, date.next?⟩

/-! ### Monthly rules -/

/-- The days that the selectors pick in a month, ascending and without repeats. -/
def resolveDays (days : NumberSet DaySelector) (year : Int) (month : Nat) : NumberSet Nat :=
  match lastDayOfMonth? year month with
  | none => .empty
  | some lastDay => .ofList (days.toList.filterMap (·.resolve? lastDay))

/-- Whether a rule for the given months includes a month; no months at all stand for every one. -/
def monthAllowed (months : NumberSet Nat) (month : Nat) : Bool :=
  months.isEmpty || decide (month ∈ months)

/-- The first picked date of the month that is not before the date. -/
def pickedFrom? (days : NumberSet DaySelector) (date : Date) : Option Date :=
  ((resolveDays days date.year date.month).toList.find? (date.day ≤ ·)).bind fun day =>
    Date.ofCivil? date.year date.month day

/-- A monthly walk goes from one picked date to the day after it, and from a month with no picked
date left to the start of the next month. -/
def monthlyStep (days : NumberSet DaySelector) (months : NumberSet Nat) (cursor : Option Date) :
    Option (Step (Option Date)) :=
  cursor.map fun date =>
    if monthAllowed months date.month then
      match pickedFrom? days date with
      | some picked => ⟨some picked, picked.next?⟩
      | none => ⟨none, date.firstOfNextMonth?⟩
    else ⟨none, date.firstOfNextMonth?⟩

/-! ### All rules -/

/-- The first date after `now` that fits the rule, if the search finds one. -/
def find? (now anchor : Date) : Rule → Option Date
  | .daily interval =>
    firstAfter (dailyStep interval) now maxSteps (dailyStart? now anchor interval)
  | .yearly => firstAfter (yearlyStep anchor) now maxSteps (yearlyStart now anchor)
  | .weekly weekdays => firstAfter (weeklyStep weekdays) now maxSteps (scanStart? now anchor)
  | .monthly days months =>
    firstAfter (monthlyStep days months) now maxSteps (scanStart? now anchor)

end Recurrence

/-- The first date after `now` that fits the rule, walking forward from the anchor. -/
def nextDate (now anchor : Date) (rule : Rule) : Except Error Date :=
  if rule = .daily 0 then .error (.invalidArgument .zeroInterval)
  else
    match Recurrence.find? now anchor rule with
    | some date => .ok date
    | none => .error (.unsatisfiableRule rule.text)

/-- The next date of a task that may have no rule. -/
def nextDateOfOptional (now anchor : Date) : Option Rule → Except Error Date
  | none => .error .noRule
  | some rule => nextDate now anchor rule

/-- Reads a date in stored form. -/
def readDate (text : String) : Except Error Date :=
  match Date.ofText? text with
  | some date => .ok date
  | none => .error (.invalidDate text)

/-- The next date on texts: a stored anchor date and a repeat rule. The date is read first. -/
def nextDateText (now : Date) (anchor rule : String) : Except Error String :=
  if rule = "" then .error .noRule
  else do
    let anchor ← readDate anchor
    let rule ← Rule.parse rule
    let date ← nextDate now anchor rule
    return date.text

end Agenda
