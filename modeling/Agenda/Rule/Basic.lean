import Agenda.Rule.NumberSet

/-!
# Repeat rules

A rule says on which days a task comes up again: at a fixed interval, on the same day every year,
on some days of the week, or on some days of the month. The types also hold values that no rule
text gives, such as an interval of zero; `Rule.WellFormed` names the ones a text can give.
-/

namespace Agenda

/-- A day of the month, counted from its start or from its end. -/
inductive DaySelector where
  /-- The day before the last, written `-2`. -/
  | secondToLast
  /-- The last day, written `-1`. -/
  | last
  /-- The day with this number. -/
  | day (number : Nat)
deriving DecidableEq, Repr

namespace DaySelector

instance : Numbered DaySelector where
  value
    | secondToLast => -2
    | last => -1
    | day number => Int.ofNat number
  value_injective := by
    intro a b h
    cases a with
    | secondToLast =>
      cases b with
      | secondToLast => rfl
      | last => exact absurd h (by decide)
      | day n => exact absurd h (show (-2 : Int) ≠ n by omega)
    | last =>
      cases b with
      | secondToLast => exact absurd h (by decide)
      | last => rfl
      | day n => exact absurd h (show (-1 : Int) ≠ n by omega)
    | day m =>
      cases b with
      | secondToLast => exact absurd h (show (m : Int) ≠ -2 by omega)
      | last => exact absurd h (show (m : Int) ≠ -1 by omega)
      | day n => exact congrArg day (Int.ofNat.inj h)

/-- The selector written as the given number. -/
def ofValue? (n : Int) : Option DaySelector :=
  if n = -2 then some secondToLast
  else if n = -1 then some last
  else if 1 ≤ n ∧ n ≤ 31 then some (day n.toNat)
  else none

/-- The day selected in a month with the given last day. A day past the end of the month does not
exist in it, and a month of one day has no day before its last. -/
def resolve? (selector : DaySelector) (lastDay : Nat) : Option Nat :=
  match selector with
  | day number => if number ≤ lastDay then some number else none
  | last => some lastDay
  | secondToLast => if 1 < lastDay then some (lastDay - 1) else none

end DaySelector

/-- A repeat rule. -/
inductive Rule where
  /-- Every `interval` days. -/
  | daily (interval : Nat)
  /-- On the same month and day of every year. -/
  | yearly
  /-- On the given days of the week, Monday = 1 to Sunday = 7. -/
  | weekly (weekdays : NumberSet Nat)
  /-- On the given days of the given months, of every month if none is given. -/
  | monthly (days : NumberSet DaySelector) (months : NumberSet Nat)
deriving DecidableEq

namespace Rule

/-- The longest interval of a daily rule. -/
def longestInterval : Nat := 400

/-- The rules that have a text. -/
def WellFormed : Rule → Prop
  | daily interval => 1 ≤ interval ∧ interval ≤ longestInterval
  | yearly => True
  | weekly weekdays => weekdays.toList ≠ [] ∧ ∀ w ∈ weekdays, 1 ≤ w ∧ w ≤ 7
  | monthly days months =>
    days.toList ≠ [] ∧ (∀ n, .day n ∈ days → 1 ≤ n ∧ n ≤ 31) ∧ ∀ m ∈ months, 1 ≤ m ∧ m ≤ 12

/-- A rule that has a text is not one with an interval of zero. -/
theorem WellFormed.ne_daily_zero {rule : Rule} (h : rule.WellFormed) : rule ≠ daily 0 := by
  rintro rfl
  exact absurd h.1 (by decide)

end Rule

end Agenda
