import Agenda.Proofs.Recurrence.NextDate
import Agenda.Proofs.Recurrence.StepByStep

/-!
# Year by year

A yearly rule could be followed by adding one year after the other, each to the outcome of the one
before, until a day after the current one is met or the calendar ends. The search, which skips the
years up to the current day at once and gives up after a number of steps, comes to the same
(`nextDate_yearly_exact`).
-/

namespace Agenda

open Calendar Recurrence

variable {now anchor x : Date} {result : Option Date}

/-- Single years lead to the occurrences of a yearly rule. -/
theorem leadsTo_addYears?_iff :
    LeadsTo (fun day ↦ day.addYears? 1) anchor x ↔ Rule.yearly.Occurs anchor x := by
  simp only [Date.addYears?_one]
  exact leadsTo_iff_of_count anchor.yearsLater? rfl fun _ ↦ rfl

/-- The search of a yearly rule finds what is met year by year. -/
theorem meets_addYears?_iff :
    Meets (fun day ↦ day.addYears? 1) (now < ·) anchor result ↔
      find? now anchor .yearly = result := by
  apply Meets.iff_eq_of_firstOf
  · intro day next h
    rw [Date.addYears?_one] at h
    have hyear := (Date.nextYear?_spec h).1
    apply Date.lt_of_year_lt
    omega
  · simp only [leadsTo_addYears?_iff]
    exact firstOf_yearly now anchor

/-- The next date of a yearly rule is the first day after the current one that is met by adding
single years to the anchor, each to the outcome of the one before: 29 February becomes 1 March in a
common year and stays there. It is refused exactly where these years lead out of the calendar
first. -/
theorem nextDate_yearly_exact (now anchor : Date) :
    (∀ day : Date, day.addYears? 1 =
      if day.IsLeapDay then Date.ofCivil? (day.year + 1) 3 1
      else Date.ofCivil? (day.year + 1) day.month day.day) ∧
    (∀ date, nextDate now anchor .yearly = .ok date ↔
      Meets (fun day ↦ day.addYears? 1) (now < ·) anchor (some date)) ∧
    ∀ e, nextDate now anchor .yearly = .error e ↔
      e = .unsatisfiableRule Rule.yearly.text ∧
        Meets (fun day ↦ day.addYears? 1) (now < ·) anchor none := by
  have hrule : Rule.yearly ≠ .daily 0 := by simp
  refine ⟨Date.addYears?_one, fun date ↦ ?_, fun e ↦ ?_⟩
  · rw [nextDate_eq_ok_iff_find? hrule, meets_addYears?_iff]
  · rw [nextDate_eq_error_iff_find? hrule, meets_addYears?_iff]

-- From the first year of the calendar to its last one.
example : nextDate (.civil 262142 2 28 (by decide)) (.civil (-262143) 3 1 (by decide)) .yearly =
    .ok (.civil 262142 3 1 (by decide)) := by
  decide

end Agenda
