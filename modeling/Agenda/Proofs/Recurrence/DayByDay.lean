import Agenda.Proofs.Recurrence.NextDate
import Agenda.Proofs.Recurrence.StepByStep

/-!
# Daily and weekly rules, step by step

A daily rule could be followed by adding one interval after the other, a weekly one by looking at
one day after the other. The searches, which skip the days up to the current one and give up after a
number of steps, come to the same (`nextDate_daily_exact`, `nextDate_weekly_exact`).
-/

namespace Agenda

open Calendar Recurrence

/-! ### Interval by interval -/

variable {now anchor x : Date} {interval : Nat} {result : Option Date}

/-- Single intervals lead to the occurrences of a daily rule. -/
theorem leadsTo_addDays?_iff :
    LeadsTo (fun day ↦ day.addDays? interval) anchor x ↔ (Rule.daily interval).Occurs anchor x := by
  have hzero : anchor.addDays? ((0 : Nat) * interval) = some anchor := by
    rw [Date.addDays?_eq_some_iff, Int.natCast_zero, Int.zero_mul, Int.add_zero]
  rw [leadsTo_iff_of_count (fun count ↦ anchor.addDays? (count * interval)) hzero fun count ↦
    addDays?_succ_mul anchor count interval]
  simp only [Date.addDays?_eq_some_iff]
  rfl

/-- The search of a daily rule finds what is met interval by interval. -/
theorem meets_addDays?_iff (hpos : 0 < interval) :
    Meets (fun day ↦ day.addDays? interval) (now < ·) anchor result ↔
      find? now anchor (.daily interval) = result := by
  apply Meets.iff_eq_of_firstOf
  · intro day next h
    have := Date.addDays?_eq_some_iff.1 h
    rw [Date.lt_iff_number_lt]
    omega
  · simp only [leadsTo_addDays?_iff]
    exact firstOf_daily now anchor hpos

/-- The milliseconds of a day. -/
def millisecondsPerDay : Int := 86400000

/-- A number of days fits a span of time: counted in milliseconds it fits a signed 64-bit word. -/
def FitsSpan (days : Int) : Prop := Text.IsInt64 (millisecondsPerDay * days)

private theorem fitsSpan_of_le {a b : Date} {days : Int}
    (hmost : days ≤ max 0 (b.number - a.number))
    (hleast : min 0 (b.number - a.number) ≤ days) : FitsSpan days := by
  have hwidth : daysBeforeYear (lastYear + 1) - daysBeforeYear firstYear = 191491529 := by decide
  have ha := a.number_mem_year
  have hb := b.number_mem_year
  have haFirst := daysBeforeYear_le a.year_mem.1
  have hbFirst := daysBeforeYear_le b.year_mem.1
  have haLast := daysBeforeYear_le (Int.add_le_add_right a.year_mem.2 1)
  have hbLast := daysBeforeYear_le (Int.add_le_add_right b.year_mem.2 1)
  unfold FitsSpan Text.IsInt64 millisecondsPerDay
  omega

/-- The next date of a daily rule is the anchor and the least number of intervals past the current
day, the same as interval by interval. It is refused exactly where that day is not in the calendar.
The whole intervals that the search skips do not come past the current day, so they end on a date of
the calendar, and none of the spans of time on the way is too long for a signed 64-bit word. -/
theorem nextDate_daily_exact (now anchor : Date) {interval : Nat} (hpos : 1 ≤ interval) :
    (∃ count : Nat,
      IsLeast {count : Nat | 1 ≤ count ∧ now.number < anchor.number + count * interval} count ∧
      (∀ date, nextDate now anchor (.daily interval) = .ok date ↔
        date.number = anchor.number + count * interval) ∧
      ∀ e, nextDate now anchor (.daily interval) = .error e ↔
        e = .unsatisfiableRule (Rule.daily interval).text ∧
          ¬∃ date : Date, date.number = anchor.number + count * interval) ∧
    (∀ date, nextDate now anchor (.daily interval) = .ok date ↔
      Meets (fun day ↦ day.addDays? interval) (now < ·) anchor (some date)) ∧
    (∀ e, nextDate now anchor (.daily interval) = .error e ↔
      e = .unsatisfiableRule (Rule.daily interval).text ∧
        Meets (fun day ↦ day.addDays? interval) (now < ·) anchor none) ∧
    (0 ≤ skippedIntervals now anchor interval ∧
      skippedIntervals now anchor interval * interval ≤ max 0 (now.number - anchor.number) ∧
      ∃ start : Date,
        anchor.addDays? (skippedIntervals now anchor interval * interval) = some start ∧
        dailyStart? now anchor interval = start.addDays? interval) ∧
    FitsSpan (now.number - anchor.number) ∧
    FitsSpan (skippedIntervals now anchor interval * interval) ∧
    (interval < Text.limit32 → FitsSpan interval) := by
  have hrule : Rule.daily interval ≠ .daily 0 := by
    intro h
    injection h with h
    omega
  obtain ⟨hnonneg, hle, _⟩ := skippedIntervals_spec now anchor hpos
  obtain ⟨skipped, hskipped⟩ := exists_skippedIntervals_eq now anchor hpos
  obtain ⟨start, hstart, _⟩ := exists_addDays?_skippedIntervals now anchor hpos
  have hcount := isLeast_intervalsPast hpos hskipped
  have hfind := find?_daily hpos hcount
  refine ⟨⟨skipped + 1, hcount, ?_, ?_⟩, ?_, ?_, ⟨hnonneg, hle, start, hstart, ?_⟩, ?_, ?_, ?_⟩
  · intro date
    rw [nextDate_eq_ok_iff_find? hrule, hfind, Date.addDays?_eq_some_iff]
  · intro e
    rw [nextDate_eq_error_iff_find? hrule, hfind, Option.eq_none_iff_forall_ne_some, not_exists]
    simp only [ne_eq, Date.addDays?_eq_some_iff]
  · intro date
    rw [nextDate_eq_ok_iff_find? hrule, meets_addDays?_iff hpos]
  · intro e
    rw [nextDate_eq_error_iff_find? hrule, meets_addDays?_iff hpos]
  · rw [dailyStart?_eq, hstart, Option.bind_some]
  · apply fitsSpan_of_le (a := anchor) (b := now) <;> omega
  · have hmul : 0 ≤ skippedIntervals now anchor interval * interval :=
      Int.mul_nonneg hnonneg (Int.natCast_nonneg interval)
    apply fitsSpan_of_le (a := anchor) (b := now) <;> omega
  · intro hmost
    unfold Text.limit32 at hmost
    unfold FitsSpan Text.IsInt64 millisecondsPerDay
    omega

/-- A task of every five days from 1 March 2024 that is looked at on 16 March, one of its days,
moves to the next one, 21 March. -/
theorem nextDate_daily_exact_on_its_day :
    1 ≤ 5 ∧
    (∃ count : Nat,
      IsLeast {count : Nat | 1 ≤ count ∧ (Date.civil 2024 3 16 (by decide)).number <
        (Date.civil 2024 3 1 (by decide)).number + count * (5 : Nat)} count ∧
      ∀ date, nextDate (.civil 2024 3 16 (by decide)) (.civil 2024 3 1 (by decide)) (.daily 5) =
        .ok date ↔ date.number = (Date.civil 2024 3 1 (by decide)).number + count * (5 : Nat)) ∧
    skippedIntervals (.civil 2024 3 16 (by decide)) (.civil 2024 3 1 (by decide)) 5 = 3 ∧
    nextDate (.civil 2024 3 16 (by decide)) (.civil 2024 3 1 (by decide)) (.daily 5) =
      .ok (.civil 2024 3 21 (by decide)) ∧
    Meets (fun day ↦ day.addDays? (5 : Nat)) (Date.civil 2024 3 16 (by decide) < ·)
      (.civil 2024 3 1 (by decide)) (some (.civil 2024 3 21 (by decide))) := by
  have hpos : 1 ≤ 5 := by decide
  have hnext : nextDate (.civil 2024 3 16 (by decide)) (.civil 2024 3 1 (by decide)) (.daily 5) =
      .ok (.civil 2024 3 21 (by decide)) := by
    decide
  obtain ⟨⟨count, hcount, hdate, _⟩, hmeets, _⟩ :=
    nextDate_daily_exact (.civil 2024 3 16 (by decide)) (.civil 2024 3 1 (by decide)) hpos
  exact ⟨hpos, ⟨count, hcount, hdate⟩, by decide, hnext, (hmeets _).1 hnext⟩

/-! ### Day by day -/

/-- The days after a day are those that single days lead to. -/
theorem leadsTo_next?_iff : LeadsTo Date.next? anchor x ↔ anchor < x := by
  have hsingle : LeadsTo Date.next? anchor x ↔ (Rule.daily 1).Occurs anchor x :=
    leadsTo_addDays?_iff
  rw [hsingle, Date.lt_iff_number_lt]
  constructor
  · rintro ⟨count, hcount, hnumber⟩
    omega
  · intro h
    exact ⟨(x.number - anchor.number).toNat, by omega, by omega⟩

/-- The search of a weekly rule finds what is met day by day. -/
theorem meets_next?_iff {weekdays : NumberSet Nat} :
    Meets Date.next? (fun day ↦ now < day ∧ day.weekday ∈ weekdays) anchor result ↔
      find? now anchor (.weekly weekdays) = result := by
  apply Meets.iff_eq_of_firstOf
  · intro day next h
    exact (Date.lt_iff_next_le h).2 le_rfl
  · have hset : {x | (now < x ∧ x.weekday ∈ weekdays) ∧ LeadsTo Date.next? anchor x} =
        {x | now < x ∧ anchor < x ∧ x.weekday ∈ weekdays} := by
      ext x
      simp only [Set.mem_ofPred_eq, leadsTo_next?_iff]
      tauto
    rw [hset]
    exact firstOf_weekly now anchor weekdays

/-- The day of the week that a day number falls on, past the ends of the calendar too. -/
def Calendar.weekdayOf (number : Int) : Nat := (number % 7).toNat + 1

private theorem number_le_of_nextDate_weekly {weekdays : NumberSet Nat} {date : Date}
    (h : IsLeast {x | now < x ∧ anchor < x ∧ x.weekday ∈ weekdays} date) :
    date.number ≤ (max now anchor).number + 7 := by
  have hlater : max now anchor < date := max_lt h.1.1 h.1.2.1
  have hnumber := Date.lt_iff_number_lt.1 hlater
  obtain ⟨start, hstart⟩ := Date.exists_number_eq (a := max now anchor) (b := date)
    ((max now anchor).number + 1) (by omega) (by omega)
  have hle : start ≤ date := by
    rw [Date.le_iff_number_le]
    omega
  -- The day of the week comes up within seven days, and the date is the first of them.
  obtain ⟨near, hnear, _, hnumberNear, hweekday⟩ := Date.exists_weekday_eq hle
  have hpast : max now anchor < near := by
    rw [Date.le_iff_number_le] at hnear
    rw [Date.lt_iff_number_lt]
    omega
  have hmem : near ∈ {x | now < x ∧ anchor < x ∧ x.weekday ∈ weekdays} := by
    refine ⟨lt_of_le_of_lt (le_max_left _ _) hpast, lt_of_le_of_lt (le_max_right _ _) hpast, ?_⟩
    rw [hweekday]
    exact h.1.2.2
  have hleast := Date.le_iff_number_le.1 (h.2 hmem)
  omega

private theorem weekly_eq_empty_iff {weekdays : NumberSet Nat} :
    {x : Date | now < x ∧ anchor < x ∧ x.weekday ∈ weekdays} = ∅ ↔
      (∀ weekday ∈ weekdays, ¬(1 ≤ weekday ∧ weekday ≤ 7)) ∨
        ∀ number, now.number < number → anchor.number < number →
          weekdayOf number ∈ weekdays → daysBeforeYear (lastYear + 1) ≤ number := by
  constructor
  · intro hempty
    right
    intro number hnow hanchor hweekday
    by_contra hlast
    have hnowYear := now.number_mem_year
    have hfirst := daysBeforeYear_le now.year_mem.1
    -- A number inside the calendar is that of a date, which the empty set would have.
    obtain ⟨x, _, rfl⟩ := Date.exists_ofNumber?_eq number (by omega)
    have hmem : x ∈ {x : Date | now < x ∧ anchor < x ∧ x.weekday ∈ weekdays} :=
      ⟨hnow, hanchor, hweekday⟩
    rw [hempty] at hmem
    exact Set.notMem_empty x hmem
  · intro h
    apply Set.eq_empty_of_forall_notMem
    rintro x ⟨hnow, hanchor, hweekday⟩
    rcases h with hnone | hpast
    · apply hnone x.weekday hweekday
      unfold Date.weekday
      omega
    · have hend := hpast x.number hnow hanchor hweekday
      have hx := x.number_mem_year
      have hlast := daysBeforeYear_le (Int.add_le_add_right x.year_mem.2 1)
      omega

/-- The next date of a weekly rule is the first day after both dates that is on one of its days of
the week, the same as day by day from the day after the anchor, and comes within seven days of the
later of both. It is refused exactly where the rule has no day of a week or all of its days after
both dates lie past the end of the calendar. -/
theorem nextDate_weekly_exact (now anchor : Date) (weekdays : NumberSet Nat) :
    (∀ date, nextDate now anchor (.weekly weekdays) = .ok date ↔
      IsLeast {x | now < x ∧ anchor < x ∧ x.weekday ∈ weekdays} date) ∧
    (∀ date, nextDate now anchor (.weekly weekdays) = .ok date →
      date.number ≤ (max now anchor).number + 7) ∧
    (∀ e, nextDate now anchor (.weekly weekdays) = .error e ↔
      e = .unsatisfiableRule (Rule.weekly weekdays).text ∧
        ((∀ weekday ∈ weekdays, ¬(1 ≤ weekday ∧ weekday ≤ 7)) ∨
          ∀ number, now.number < number → anchor.number < number →
            weekdayOf number ∈ weekdays → daysBeforeYear (lastYear + 1) ≤ number)) ∧
    (∀ date, nextDate now anchor (.weekly weekdays) = .ok date ↔
      Meets Date.next? (fun day ↦ now < day ∧ day.weekday ∈ weekdays) anchor (some date)) ∧
    ∀ e, nextDate now anchor (.weekly weekdays) = .error e ↔
      e = .unsatisfiableRule (Rule.weekly weekdays).text ∧
        Meets Date.next? (fun day ↦ now < day ∧ day.weekday ∈ weekdays) anchor none := by
  have hrule : Rule.weekly weekdays ≠ .daily 0 := by simp
  have hfirst := firstOf_weekly now anchor weekdays
  have hok : ∀ date, nextDate now anchor (.weekly weekdays) = .ok date ↔
      IsLeast {x | now < x ∧ anchor < x ∧ x.weekday ∈ weekdays} date := by
    intro date
    rw [nextDate_eq_ok_iff_find? hrule, hfirst.eq_some_iff]
  refine ⟨hok, ?_, ?_, ?_, ?_⟩
  · intro date hdate
    exact number_le_of_nextDate_weekly ((hok date).1 hdate)
  · intro e
    rw [nextDate_eq_error_iff_find? hrule, hfirst.eq_none_iff, weekly_eq_empty_iff]
  · intro date
    rw [nextDate_eq_ok_iff_find? hrule, meets_next?_iff]
  · intro e
    rw [nextDate_eq_error_iff_find? hrule, meets_next?_iff]

end Agenda
