import Agenda.Recurrence
import Agenda.Proofs.Calendar.Month
import Agenda.Proofs.Calendar.Year

/-!
# The occurrences of a rule

The dates on which a task comes up again, counted from the date it is stored under, each kind of
rule described without a search. From an occurrence on, the later ones are the same whether they are
counted from it or from where it was counted (`occurs_iff_of_occurs`).
-/

namespace Agenda

open Calendar

/-- A selector picks the day of a date: the day with its number, the last one of the month, or the
one before. -/
def DaySelector.Picks (selector : DaySelector) (date : Date) : Prop :=
  match selector with
  | day number => date.day = number
  | last => date.day = monthLength date.year date.month
  | secondToLast => date.day + 1 = monthLength date.year date.month

instance (selector : DaySelector) (date : Date) : Decidable (selector.Picks date) :=
  match selector with
  | .day _ => inferInstanceAs (Decidable (_ = _))
  | .last => inferInstanceAs (Decidable (_ = _))
  | .secondToLast => inferInstanceAs (Decidable (_ = _))

namespace Rule

/-- A date is on the days of the months of a monthly rule; no months at all stand for every one. -/
def PicksDay (days : NumberSet DaySelector) (months : NumberSet Nat) (date : Date) : Prop :=
  (months.toList = [] ∨ date.month ∈ months) ∧ ∃ selector ∈ days, selector.Picks date

instance (days : NumberSet DaySelector) (months : NumberSet Nat) (date : Date) :
    Decidable (PicksDay days months date) :=
  inferInstanceAs (Decidable (_ ∧ ∃ selector ∈ days.toList, selector.Picks date))

/-- The rule comes up on the date, counted from an anchor. -/
def Occurs (rule : Rule) (anchor date : Date) : Prop :=
  match rule with
  | daily interval => ∃ count : Nat, 1 ≤ count ∧ date.number = anchor.number + count * interval
  | yearly => ∃ years, 1 ≤ years ∧ anchor.yearsLater? years = some date
  | weekly weekdays => anchor < date ∧ date.weekday ∈ weekdays
  | monthly days months => anchor < date ∧ PicksDay days months date

/-- The rule is evaluated on the date: a monthly one never is in the calendar's final month, whose
last day is not determined. -/
def IsEvaluated (rule : Rule) (date : Date) : Prop :=
  match rule with
  | monthly _ _ => ¬date.InFinalMonth
  | _ => True

/-- A rule that is evaluated on a date is evaluated on the dates before. -/
theorem isEvaluated_of_le {rule : Rule} {date later : Date} (h : rule.IsEvaluated later)
    (hle : date ≤ later) : rule.IsEvaluated date := by
  cases rule with
  | monthly days months =>
    intro hfinal
    have hlater := Date.monthCount_le_of_inFinalMonth hfinal later
    have hdate := Date.monthCount_le_of_le hle
    have hcount : later.monthCount = date.monthCount := by omega
    exact h ((Date.inFinalMonth_iff_of_monthCount_eq hcount).2 hfinal)
  | daily interval => exact trivial
  | yearly => exact trivial
  | weekly weekdays => exact trivial

/-- The occurrences of a rule come after the anchor. -/
theorem lt_of_occurs {rule : Rule} {anchor date : Date} (hrule : rule ≠ daily 0)
    (h : rule.Occurs anchor date) : anchor < date := by
  cases rule with
  | daily interval =>
    obtain ⟨count, hcount, hnumber⟩ := h
    have hinterval : interval ≠ 0 := fun h0 ↦ hrule (congrArg daily h0)
    have : 0 < count * interval := Nat.mul_pos hcount (Nat.pos_of_ne_zero hinterval)
    rw [Date.lt_iff_number_lt]
    omega
  | yearly =>
    obtain ⟨years, hyears, hlater⟩ := h
    have := Date.year_of_yearsLater? hlater
    exact Date.lt_of_year_lt (by omega)
  | weekly weekdays => exact h.1
  | monthly days months => exact h.1

/-- After an occurrence the rule comes up on the same dates counted from it. -/
theorem occurs_iff_of_occurs {rule : Rule} {anchor date later : Date} (h : rule.Occurs anchor date)
    (hlt : date < later) : rule.Occurs date later ↔ rule.Occurs anchor later := by
  cases rule with
  | daily interval =>
    obtain ⟨count, hcount, hnumber⟩ := h
    constructor
    · rintro ⟨more, hmore, hlater⟩
      refine ⟨count + more, by omega, ?_⟩
      rw [hlater, hnumber]
      push_cast
      rw [Int.add_mul]
      omega
    · rintro ⟨total, _, hlater⟩
      have hmul : count * interval < total * interval := by
        have := Date.lt_iff_number_lt.1 hlt
        omega
      have hcounts : count < total := Nat.lt_of_mul_lt_mul_right hmul
      refine ⟨total - count, by omega, ?_⟩
      rw [hlater, hnumber, Int.natCast_sub (by omega), Int.sub_mul]
      omega
  | yearly =>
    obtain ⟨years, hyears, hdate⟩ := h
    have hy := Date.year_of_yearsLater? hdate
    constructor
    · rintro ⟨more, hmore, hlater⟩
      refine ⟨years + more, by omega, ?_⟩
      rw [Date.yearsLater?_add, hdate, Option.bind_some, hlater]
    · rintro ⟨total, _, hlater⟩
      have hyl := Date.year_of_yearsLater? hlater
      have hle := Date.year_le_of_le (le_of_lt hlt)
      obtain ⟨more, rfl⟩ := Nat.exists_eq_add_of_le (show years ≤ total by omega)
      rw [Date.yearsLater?_add, hdate, Option.bind_some] at hlater
      refine ⟨more, ?_, hlater⟩
      -- No years at all would lead to the date itself.
      by_contra hmore
      rw [show more = 0 by omega] at hlater
      exact absurd hlt (by rw [Option.some.inj hlater]; exact lt_irrefl later)
  | weekly weekdays =>
    exact ⟨fun hl ↦ ⟨lt_trans h.1 hlt, hl.2⟩, fun hl ↦ ⟨hlt, hl.2⟩⟩
  | monthly days months =>
    exact ⟨fun hl ↦ ⟨lt_trans h.1 hlt, hl.2⟩, fun hl ↦ ⟨hlt, hl.2⟩⟩

end Rule

end Agenda
