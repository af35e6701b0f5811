import Agenda.Proofs.Recurrence.Daily
import Agenda.Proofs.Recurrence.Monthly
import Agenda.Proofs.Recurrence.Weekly
import Agenda.Proofs.Recurrence.Yearly

/-!
# The next date of a rule

The four searches taken together: the next date is the first occurrence after the current day, and
it is refused exactly where there is none (`nextDate_eq_ok_iff`, `nextDate_eq_error_iff`). What it
gives depends on the anchor only through the occurrences that follow it.
-/

namespace Agenda

open Calendar Recurrence

/-- The dates that a search after the current day may give. -/
def Rule.Upcoming (rule : Rule) (now anchor : Date) : Set Date :=
  {x | now < x ∧ rule.Occurs anchor x ∧ rule.IsEvaluated x}

private theorem Rule.upcoming_eq (rule : Rule) (now anchor : Date) (h : ∀ x, rule.IsEvaluated x) :
    rule.Upcoming now anchor = {x | now < x ∧ rule.Occurs anchor x} :=
  Set.ext fun x ↦ and_congr Iff.rfl (and_iff_left (h x))

private theorem Rule.upcoming_monthly (now anchor : Date) (days : NumberSet DaySelector)
    (months : NumberSet Nat) :
    (Rule.monthly days months).Upcoming now anchor =
      {x | now < x ∧ anchor < x ∧ Rule.PicksDay days months x ∧ ¬x.InFinalMonth} :=
  Set.ext fun _ ↦ and_congr Iff.rfl and_assoc

/-- The search of a rule gives its first occurrence after the current day. -/
theorem firstOf_find? (now anchor : Date) {rule : Rule} (hrule : rule ≠ .daily 0) :
    FirstOf (rule.Upcoming now anchor) (find? now anchor rule) := by
  cases rule with
  | daily interval =>
    have hpos : 0 < interval := Nat.pos_of_ne_zero fun h ↦ hrule (congrArg Rule.daily h)
    rw [Rule.upcoming_eq (.daily interval) now anchor fun _ ↦ trivial]
    exact firstOf_daily now anchor hpos
  | yearly =>
    rw [Rule.upcoming_eq .yearly now anchor fun _ ↦ trivial]
    exact firstOf_yearly now anchor
  | weekly weekdays =>
    rw [Rule.upcoming_eq (.weekly weekdays) now anchor fun _ ↦ trivial]
    exact firstOf_weekly now anchor weekdays
  | monthly days months =>
    rw [Rule.upcoming_monthly]
    exact firstOf_monthly now anchor days months

variable {now anchor date : Date} {rule : Rule}

/-- An interval of zero is refused before any search. -/
theorem nextDate_daily_zero (now anchor : Date) :
    nextDate now anchor (.daily 0) = .error (.invalidArgument .zeroInterval) := by
  simp only [nextDate, if_true]

private theorem nextDate_of_find?_eq_some (hrule : rule ≠ .daily 0)
    (h : find? now anchor rule = some date) : nextDate now anchor rule = .ok date := by
  simp only [nextDate, if_neg hrule, h]

private theorem nextDate_of_find?_eq_none (hrule : rule ≠ .daily 0)
    (h : find? now anchor rule = none) :
    nextDate now anchor rule = .error (.unsatisfiableRule rule.text) := by
  simp only [nextDate, if_neg hrule, h]

/-- The next date is what the search finds. -/
theorem nextDate_eq_ok_iff_find? (hrule : rule ≠ .daily 0) :
    nextDate now anchor rule = .ok date ↔ find? now anchor rule = some date := by
  cases h : find? now anchor rule with
  | some found =>
    rw [nextDate_of_find?_eq_some hrule h, Except.ok.injEq, Option.some.injEq]
  | none =>
    rw [nextDate_of_find?_eq_none hrule h]
    simp

/-- There is no next date exactly where the search finds nothing. -/
theorem nextDate_eq_error_iff_find? (hrule : rule ≠ .daily 0) {e : Error} :
    nextDate now anchor rule = .error e ↔
      e = .unsatisfiableRule rule.text ∧ find? now anchor rule = none := by
  cases h : find? now anchor rule with
  | some found =>
    rw [nextDate_of_find?_eq_some hrule h]
    simp
  | none =>
    rw [nextDate_of_find?_eq_none hrule h, Except.error.injEq, eq_comm]
    simp

/-- A rule is refused as one that cannot be satisfied exactly where there is no next date. -/
theorem nextDate_eq_error_iff_not_exists (hrule : rule ≠ .daily 0) {e : Error} :
    nextDate now anchor rule = .error e ↔
      e = .unsatisfiableRule rule.text ∧ ¬∃ next, nextDate now anchor rule = .ok next := by
  rw [nextDate_eq_error_iff_find? hrule, Option.eq_none_iff_forall_ne_some]
  simp only [nextDate_eq_ok_iff_find? hrule, ne_eq, not_exists]

/-- The next date is the first occurrence after the current day. -/
theorem nextDate_eq_ok_iff (hrule : rule ≠ .daily 0) :
    nextDate now anchor rule = .ok date ↔ IsLeast (rule.Upcoming now anchor) date := by
  rw [nextDate_eq_ok_iff_find? hrule, (firstOf_find? now anchor hrule).eq_some_iff]

/-- There is no next date exactly where there is no occurrence after the current day. -/
theorem nextDate_eq_error_iff (hrule : rule ≠ .daily 0) {e : Error} :
    nextDate now anchor rule = .error e ↔
      e = .unsatisfiableRule rule.text ∧ rule.Upcoming now anchor = ∅ := by
  rw [nextDate_eq_error_iff_find? hrule, (firstOf_find? now anchor hrule).eq_none_iff]

/-- The next date comes after the current day. -/
theorem lt_of_nextDate_eq_ok (h : nextDate now anchor rule = .ok date) : now < date := by
  by_cases hrule : rule = .daily 0
  · rw [hrule, nextDate_daily_zero] at h
    exact absurd h (by simp)
  · exact ((nextDate_eq_ok_iff hrule).1 h).1.1

/-- Where the upcoming dates are the same, so is the next one. -/
theorem nextDate_congr {other day : Date} (hrule : rule ≠ .daily 0)
    (h : rule.Upcoming now anchor = rule.Upcoming day other) :
    nextDate now anchor rule = nextDate day other rule := by
  cases hnext : nextDate now anchor rule with
  | ok date =>
    rw [nextDate_eq_ok_iff hrule, h] at hnext
    exact ((nextDate_eq_ok_iff hrule).2 hnext).symm
  | error e =>
    rw [nextDate_eq_error_iff hrule, h] at hnext
    exact ((nextDate_eq_error_iff hrule).2 hnext).symm

/-- Some upcoming date makes sure of a next one. -/
theorem exists_nextDate (hrule : rule ≠ .daily 0) (h : date ∈ rule.Upcoming now anchor) :
    ∃ next, nextDate now anchor rule = .ok next := by
  cases hnext : nextDate now anchor rule with
  | ok next => exact ⟨next, rfl⟩
  | error e =>
    have hempty := ((nextDate_eq_error_iff hrule).1 hnext).2
    rw [hempty] at h
    exact absurd h (Set.notMem_empty date)

/-- The next date of a monthly rule is the first day after both dates that its selectors pick in a
month it allows. It is refused, under its canonical text, exactly where no such day is left in the
calendar; the days of the final month never count. -/
theorem nextDate_monthly_exact (now anchor : Date) (days : NumberSet DaySelector)
    (months : NumberSet Nat) :
    (∀ date, nextDate now anchor (.monthly days months) = .ok date ↔
      IsLeast {x | now < x ∧ anchor < x ∧ Rule.PicksDay days months x ∧ ¬x.InFinalMonth} date) ∧
    ∀ e, nextDate now anchor (.monthly days months) = .error e ↔
      e = .unsatisfiableRule (Rule.monthly days months).text ∧
        ¬∃ x, now < x ∧ anchor < x ∧ Rule.PicksDay days months x ∧ ¬x.InFinalMonth := by
  have hrule : Rule.monthly days months ≠ .daily 0 := by simp
  constructor
  · intro date
    rw [nextDate_eq_ok_iff hrule, Rule.upcoming_monthly]
  · intro e
    rw [nextDate_eq_error_iff hrule, Rule.upcoming_monthly, Set.eq_empty_iff_forall_notMem,
      not_exists]
    rfl

/-! ### Coming up again -/

/-- Up to eight years before its end, the calendar has the dates of the next 400 days. -/
theorem exists_number_eq_add (hyear : date.year + 8 < lastYear) {days : Nat} (hdays : days ≤ 400) :
    ∃ later : Date, later.number = date.number + days := by
  have hmem := date.number_mem_year
  have hfirst := daysBeforeYear_le date.year_mem.1
  have hlast := daysBeforeYear_le (show date.year + 1 ≤ lastYear - 7 by omega)
  have hend : daysBeforeYear (lastYear - 7) + 400 ≤ daysBeforeYear (lastYear + 1) := by decide
  obtain ⟨later, _, hlater⟩ := Date.exists_ofNumber?_eq (date.number + days) (by omega)
  exact ⟨later, hlater⟩

/-- Up to eight years before the end of the calendar, an occurrence of a well-formed rule has
another one after it. -/
theorem Rule.upcoming_nonempty (hrule : rule.WellFormed) (h : rule.Occurs anchor date)
    (hyear : date.year + 8 < lastYear) : (rule.Upcoming date date).Nonempty := by
  cases rule with
  | daily interval =>
    obtain ⟨hpos, hmost⟩ := hrule
    obtain ⟨later, hlater⟩ := exists_number_eq_add hyear hmost
    refine ⟨later, ?_, ⟨1, le_rfl, ?_⟩, trivial⟩
    · rw [Date.lt_iff_number_lt]
      omega
    · rw [hlater, Int.natCast_one, Int.one_mul]
  | yearly =>
    obtain ⟨later, hlater⟩ := Date.exists_nextYear? (show date.year < lastYear by omega)
    have hnext := (Date.nextYear?_spec hlater).1
    exact ⟨later, Date.lt_of_year_lt (by omega), ⟨1, le_rfl, hlater⟩, trivial⟩
  | weekly weekdays =>
    obtain ⟨later, hlater⟩ := exists_number_eq_add hyear (show 7 ≤ 400 by decide)
    have hlt : date < later := by
      rw [Date.lt_iff_number_lt]
      omega
    refine ⟨later, hlt, ⟨hlt, ?_⟩, trivial⟩
    rw [Date.weekday_eq_of_number_eq (a := date) 1 (by omega)]
    exact h.2
  | monthly days months =>
    obtain ⟨later, hgt, hle, _, hpicks⟩ :=
      Rule.exists_picksDay h.2 date.year_mem.1 (show date.year + 8 ≤ lastYear by omega)
    have hlt := Date.lt_of_year_lt hgt
    refine ⟨later, hlt, ⟨hlt, hpicks⟩, ?_⟩
    intro hfinal
    have := hfinal.1
    omega

/-! ### Catching up -/

private theorem Rule.upcoming_eq_of_occurs (h : rule.Occurs anchor date) (hle : date ≤ now) :
    rule.Upcoming now date = rule.Upcoming now anchor := by
  ext x
  constructor
  · rintro ⟨hx, hoccurs, hevaluated⟩
    exact ⟨hx, (Rule.occurs_iff_of_occurs h (lt_of_le_of_lt hle hx)).1 hoccurs, hevaluated⟩
  · rintro ⟨hx, hoccurs, hevaluated⟩
    exact ⟨hx, (Rule.occurs_iff_of_occurs h (lt_of_le_of_lt hle hx)).2 hoccurs, hevaluated⟩

/-- A later current day leaves the later ones of the upcoming dates. -/
theorem Rule.upcoming_subset {later : Date} (h : now ≤ later) :
    rule.Upcoming later anchor ⊆ rule.Upcoming now anchor :=
  fun _ hx ↦ ⟨lt_of_le_of_lt h hx.1, hx.2⟩

/-- Catching up late comes to the same as completing on the way. A rule that has a next date after a
later day has one after an earlier day, no later than that; and from a next date that is past by the
later day, the rule goes on as from the anchor, with the same date or the same error. -/
theorem nextDate_catch_up (rule : Rule) (anchor : Date) {now later : Date} (h : now ≤ later) :
    (∀ date, nextDate later anchor rule = .ok date →
      ∃ earlier, nextDate now anchor rule = .ok earlier ∧ earlier ≤ date) ∧
    ∀ date, nextDate now anchor rule = .ok date → date ≤ later →
      nextDate later date rule = nextDate later anchor rule := by
  by_cases hrule : rule = .daily 0
  · -- An interval of zero has no next date at all.
    subst hrule
    simp only [nextDate_daily_zero]
    exact ⟨fun _ hdate ↦ by simp at hdate, fun _ hdate ↦ by simp at hdate⟩
  · constructor
    · intro date hdate
      have hleast := (nextDate_eq_ok_iff hrule).1 hdate
      have hmem := Rule.upcoming_subset h hleast.1
      obtain ⟨earlier, hearlier⟩ := exists_nextDate hrule hmem
      exact ⟨earlier, hearlier, ((nextDate_eq_ok_iff hrule).1 hearlier).2 hmem⟩
    · intro date hdate hle
      have hoccurs := ((nextDate_eq_ok_iff hrule).1 hdate).1.2.1
      exact nextDate_congr hrule (Rule.upcoming_eq_of_occurs hoccurs hle)

/-- A yearly task of 29 February 2024 that is moved to 1 March 2025 on the way goes on in June 2026
as from its first date. -/
theorem nextDate_catch_up_leap_day :
    Date.civil 2025 1 1 (by decide) ≤ .civil 2026 6 1 (by decide) ∧
    Date.civil 2025 3 1 (by decide) ≤ .civil 2026 6 1 (by decide) ∧
    nextDate (.civil 2025 1 1 (by decide)) (.civil 2024 2 29 (by decide)) .yearly =
      .ok (.civil 2025 3 1 (by decide)) ∧
    nextDate (.civil 2026 6 1 (by decide)) (.civil 2025 3 1 (by decide)) .yearly =
      nextDate (.civil 2026 6 1 (by decide)) (.civil 2024 2 29 (by decide)) .yearly := by
  have hnow : Date.civil 2025 1 1 (by decide) ≤ .civil 2026 6 1 (by decide) := by decide
  have hle : Date.civil 2025 3 1 (by decide) ≤ .civil 2026 6 1 (by decide) := by decide
  have hdate : nextDate (.civil 2025 1 1 (by decide)) (.civil 2024 2 29 (by decide)) .yearly =
      .ok (.civil 2025 3 1 (by decide)) := by
    decide
  exact ⟨hnow, hle, hdate, (nextDate_catch_up .yearly _ hnow).2 _ hdate hle⟩

end Agenda
