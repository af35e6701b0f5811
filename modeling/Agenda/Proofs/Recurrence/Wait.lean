import Agenda.Proofs.Calendar.DateText
import Agenda.Proofs.Recurrence.Satisfiable
import Agenda.Proofs.Rule.Text

/-!
# How long a rule lets one wait

A rule that can be read and fits some date comes up within 2921 days of any day that is not close to
the end of the calendar (`Rule.exists_upcoming_within`). That is eight years with one leap day, the
time from 29 February 1896 to the next one. So on days of four digits a rule has a next date within
2921 days or none at all (`nextDate_within_eight_years`).
-/

namespace Agenda

open Calendar

/-- A date of four digits is far from the end of the calendar. -/
theorem year_add_lt_lastYear {date : Date} (h : date.HasFourDigitYear) :
    date.year + 8 < lastYear := by
  unfold Date.HasFourDigitYear at h
  unfold lastYear
  omega

namespace Calendar

private theorem daysBeforeYear_add_eight_le (year : Int) :
    daysBeforeYear (year + 8) ≤ daysBeforeYear year + 2922 := by
  unfold daysBeforeYear
  omega

private theorem exists_later_weekday_eq {date : Date} (hyear : date.year + 8 < lastYear)
    {weekday : Nat} (h : 1 ≤ weekday ∧ weekday ≤ 7) :
    ∃ later, date < later ∧ later.number ≤ date.number + 7 ∧ later.weekday = weekday := by
  obtain ⟨later, hlater⟩ := exists_number_eq_add hyear
    (show ((weekday - 2 - date.number) % 7).toNat + 1 ≤ 400 by omega)
  refine ⟨later, ?_, by omega, ?_⟩
  · rw [Date.lt_iff_number_lt]
    omega
  · unfold Date.weekday
    omega

end Calendar

namespace Rule

variable {rule : Rule} {now anchor start : Date}

/-- A daily rule comes up within one interval of the later of both dates. -/
theorem exists_upcoming_daily {interval : Nat} (hrule : (daily interval).WellFormed)
    (hnow : now ≤ start) (hanchor : anchor ≤ start) (hyear : start.year + 8 < lastYear) :
    ∃ x ∈ (daily interval).Upcoming now anchor, x.number ≤ start.number + 400 := by
  obtain ⟨hpos, hmost⟩ := hrule
  have hlongest : interval ≤ 400 := hmost
  obtain ⟨skipped, hskipped⟩ := Recurrence.exists_skippedIntervals_eq now anchor hpos
  obtain ⟨hone, hpast⟩ := (Recurrence.isLeast_intervalsPast hpos hskipped).1
  obtain ⟨first, hfirst, hle⟩ := Recurrence.exists_addDays?_skippedIntervals now anchor hpos
  rw [hskipped, Date.addDays?_eq_some_iff] at hfirst
  have hstart : first ≤ start := le_trans hle (max_le hanchor hnow)
  have hfirstYear := Date.year_le_of_le hstart
  obtain ⟨later, hlater⟩ := exists_number_eq_add (show first.year + 8 < lastYear by omega) hlongest
  have hnumber : later.number = anchor.number + (skipped + 1 : Nat) * interval := by
    rw [hlater, hfirst, Int.natCast_succ, Int.add_mul, Int.one_mul, Int.add_assoc]
  rw [Date.le_iff_number_le] at hstart
  refine ⟨later, ⟨?_, ⟨skipped + 1, hone, hnumber⟩, trivial⟩, by omega⟩
  rw [Date.lt_iff_number_lt, hnumber]
  exact hpast

/-- A yearly rule comes up in the year after the later of both dates. -/
theorem exists_upcoming_yearly (hnow : now ≤ start) (hanchor : anchor ≤ start)
    (hyear : start.year + 8 < lastYear) :
    ∃ x ∈ yearly.Upcoming now anchor, x.year = start.year + 1 := by
  have hanchorYear := Date.year_le_of_le hanchor
  obtain ⟨later, hlater⟩ := Date.exists_yearsLater?
    (show anchor.year + ((start.year - anchor.year).toNat + 1 : Nat) ≤ lastYear by omega)
  have hlaterYear := Date.year_of_yearsLater? hlater
  have hlt : start < later := by
    apply Date.lt_of_year_lt
    omega
  exact ⟨later, ⟨lt_of_le_of_lt hnow hlt, ⟨_, by omega, hlater⟩, trivial⟩, by omega⟩

/-- A weekly rule comes up within seven days of the later of both dates. -/
theorem exists_upcoming_weekly {weekdays : NumberSet Nat} (hrule : (weekly weekdays).WellFormed)
    (hnow : now ≤ start) (hanchor : anchor ≤ start) (hyear : start.year + 8 < lastYear) :
    ∃ x ∈ (weekly weekdays).Upcoming now anchor, x.number ≤ start.number + 7 := by
  obtain ⟨weekday, hmem⟩ := List.exists_mem_of_ne_nil _ hrule.1
  obtain ⟨later, hlt, hnear, hweekday⟩ := exists_later_weekday_eq hyear (hrule.2 weekday hmem)
  refine ⟨later, ⟨lt_of_le_of_lt hnow hlt, ⟨lt_of_le_of_lt hanchor hlt, ?_⟩, trivial⟩, hnear⟩
  rw [hweekday]
  exact hmem

private theorem exists_picksDay_within {days : NumberSet DaySelector} {months : NumberSet Nat}
    {x : Date} (h : PicksDay days months x) (hyear : start.year + 8 < lastYear) :
    ∃ y : Date, start < y ∧ y.year ≤ start.year + 8 ∧ y.number ≤ start.number + 2921 ∧
      PicksDay days months y := by
  have hfirst := start.year_mem.1
  have hstart := start.number_mem_year
  have height := daysBeforeYear_add_eight_le start.year
  obtain ⟨near, hgt, hle, hkind⟩ := exists_isLeap_eq (start.year - 1) (isLeap x.year)
  obtain ⟨y, rfl, hmonth, hday, hpicks⟩ := exists_picksDay_of_isLeap_eq h (by omega) hkind
  by_cases hlt : start < y
  · refine ⟨y, hlt, by omega, ?_, hpicks⟩
    have hy := y.number_mem_year
    have := daysBeforeYear_le (show y.year + 1 ≤ start.year + 8 by omega)
    omega
  · -- This year's date is not past the start, so the next year of the same kind has to do.
    have hyStart : y ≤ start := le_of_not_gt hlt
    have hsame := Date.year_le_of_le hyStart
    obtain ⟨far, hfar, hfarLe, hfarKind, hdays⟩ := exists_next_isLeap_eq y.year
    obtain ⟨z, rfl, hzMonth, hzDay, hzPicks⟩ :=
      exists_picksDay_of_isLeap_eq hpicks (show firstYear ≤ far ∧ far ≤ lastYear by omega) hfarKind
    refine ⟨z, ?_, by omega, ?_, hzPicks⟩
    · apply Date.lt_of_year_lt
      omega
    · have hapart := Date.number_sub_number_of_isLeap_eq hfarKind.symm hzMonth.symm hzDay.symm
      rw [Date.le_iff_number_le] at hyStart
      omega

/-- Up to eight years before the end of the calendar, a rule that is read and fits some date comes
up within 2921 days of the later of both dates. -/
theorem exists_upcoming_within (hrule : rule.WellFormed) (h : ¬rule.FitsNoDate)
    (hnow : now ≤ start) (hanchor : anchor ≤ start) (hyear : start.year + 8 < lastYear) :
    ∃ x ∈ rule.Upcoming now anchor, x.number ≤ start.number + 2921 := by
  cases rule with
  | daily interval =>
    obtain ⟨x, hx, hnear⟩ := exists_upcoming_daily hrule hnow hanchor hyear
    exact ⟨x, hx, by omega⟩
  | yearly =>
    obtain ⟨x, hx, hnext⟩ := exists_upcoming_yearly hnow hanchor hyear
    have hxYear := x.number_mem_year
    have hstart := start.number_mem_year
    have height := daysBeforeYear_add_eight_le start.year
    have hle := daysBeforeYear_le (show x.year + 1 ≤ start.year + 8 by omega)
    exact ⟨x, hx, by omega⟩
  | weekly weekdays =>
    obtain ⟨x, hx, hnear⟩ := exists_upcoming_weekly hrule hnow hanchor hyear
    exact ⟨x, hx, by omega⟩
  | monthly days months =>
    obtain ⟨picked, hpicked⟩ := exists_picksDay_of_not_fitsNoDate hrule h
    obtain ⟨later, hlt, hlaterYear, hnear, hpicks⟩ := exists_picksDay_within hpicked hyear
    refine ⟨later, ⟨lt_of_le_of_lt hnow hlt, ⟨lt_of_le_of_lt hanchor hlt, hpicks⟩, ?_⟩, hnear⟩
    intro hfinal
    have := hfinal.1
    omega

end Rule

variable {rule : Rule} {now anchor : Date}

/-- Up to eight years before the end of the calendar, a rule that is read and fits some date has a
next date, which comes within 2921 days after the later of both dates. -/
theorem exists_nextDate_within (hrule : rule.WellFormed) (h : ¬rule.FitsNoDate)
    (hnow : now.year + 8 < lastYear) (hanchor : anchor.year + 8 < lastYear) :
    ∃ next, nextDate now anchor rule = .ok next ∧ max now anchor < next ∧
      next.number ≤ (max now anchor).number + 2921 := by
  have hzero := hrule.ne_daily_zero
  have hyear : (max now anchor).year + 8 < lastYear := by
    rcases le_total now anchor with hle | hle
    · rw [max_eq_right hle]
      exact hanchor
    · rw [max_eq_left hle]
      exact hnow
  obtain ⟨x, hx, hnear⟩ :=
    Rule.exists_upcoming_within hrule h (le_max_left now anchor) (le_max_right now anchor) hyear
  obtain ⟨next, hnext⟩ := exists_nextDate hzero hx
  have hleast := (nextDate_eq_ok_iff hzero).1 hnext
  refine ⟨next, hnext, ?_, ?_⟩
  · apply max_lt
    · exact hleast.1.1
    · exact Rule.lt_of_occurs hzero hleast.1.2.1
  · have hle := Date.le_iff_number_le.1 (hleast.2 hx)
    omega

private theorem exists_nextDate_eq_error_iff (hrule : rule.WellFormed)
    (hnow : now.year + 8 < lastYear) (hanchor : anchor.year + 8 < lastYear) :
    (∃ e, nextDate now anchor rule = .error e) ↔ rule.FitsNoDate := by
  constructor
  · rintro ⟨e, he⟩
    by_contra hfits
    obtain ⟨next, hnext, _⟩ := exists_nextDate_within hrule hfits hnow hanchor
    rw [hnext] at he
    exact absurd he (by simp)
  · intro h
    exact ⟨_, nextDate_of_fitsNoDate h now anchor⟩

/-- On days of four digits, a rule that is read has no next date exactly if it is a monthly one for
given months, has no day counted from the end of a month, and each of its days is a number past the
greatest length of every month given. It is then unsatisfiable on every day of the calendar. Any
other rule has a next date, which comes within 2921 days after the later of both dates. -/
theorem nextDate_within_eight_years {text : String} (hrule : Rule.parse text = .ok rule)
    (hnow : now.HasFourDigitYear) (hanchor : anchor.HasFourDigitYear) :
    ((∃ e, nextDate now anchor rule = .error e) ↔
      ∃ days months, rule = .monthly days months ∧ months.toList ≠ [] ∧
        .last ∉ days ∧ .secondToLast ∉ days ∧
        ∀ number, .day number ∈ days → ∀ month ∈ months, longestMonth month < number) ∧
    (∀ e, nextDate now anchor rule = .error e →
      ∀ day other, nextDate day other rule = .error (.unsatisfiableRule rule.text)) ∧
    ((¬∃ e, nextDate now anchor rule = .error e) →
      ∃ next, nextDate now anchor rule = .ok next ∧ max now anchor < next ∧
        next.number ≤ (max now anchor).number + 2921) := by
  have hwell := Rule.wellFormed_of_parse hrule
  have hnowYear := year_add_lt_lastYear hnow
  have hanchorYear := year_add_lt_lastYear hanchor
  have hrefused := exists_nextDate_eq_error_iff hwell hnowYear hanchorYear
  refine ⟨?_, ?_, ?_⟩
  · rw [hrefused]
    exact Rule.fitsNoDate_iff
  · intro e he day other
    apply nextDate_of_fitsNoDate
    exact hrefused.1 ⟨e, he⟩
  · intro hfound
    rw [hrefused] at hfound
    exact exists_nextDate_within hwell hfound hnowYear hanchorYear

/-- From 29 February 1896 on, a rule for that day waits the whole 2921 days. -/
theorem nextDate_within_eight_years_leap_day :
    Rule.parse "m 29 2" = .ok (.monthly (.ofList [.day 29]) (.ofList [2])) ∧
    (Date.civil 1896 2 29 (by decide)).HasFourDigitYear ∧
    (∃ next, nextDate (.civil 1896 2 29 (by decide)) (.civil 1896 2 29 (by decide))
        (.monthly (.ofList [.day 29]) (.ofList [2])) = .ok next ∧
      max (Date.civil 1896 2 29 (by decide)) (.civil 1896 2 29 (by decide)) < next ∧
      next.number ≤
        (max (Date.civil 1896 2 29 (by decide)) (.civil 1896 2 29 (by decide))).number + 2921) ∧
    (Date.civil 1904 2 29 (by decide)).number =
      (Date.civil 1896 2 29 (by decide)).number + 2921 ∧
    nextDate (.civil 1896 2 29 (by decide)) (.civil 1896 2 29 (by decide))
      (.monthly (.ofList [.day 29]) (.ofList [2])) = .ok (.civil 1904 2 29 (by decide)) := by
  have hrule : Rule.parse "m 29 2" = .ok (.monthly (.ofList [.day 29]) (.ofList [2])) := by decide
  have hday : (Date.civil 1896 2 29 (by decide)).HasFourDigitYear := by decide
  have hnext : nextDate (.civil 1896 2 29 (by decide)) (.civil 1896 2 29 (by decide))
      (.monthly (.ofList [.day 29]) (.ofList [2])) = .ok (.civil 1904 2 29 (by decide)) := by
    decide +kernel
  refine ⟨hrule, hday, ?_, by decide, hnext⟩
  apply (nextDate_within_eight_years hrule hday hday).2.2
  rintro ⟨e, he⟩
  rw [hnext] at he
  exact absurd he (by simp)

end Agenda
