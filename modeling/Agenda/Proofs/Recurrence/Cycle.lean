import Agenda.Proofs.Calendar.Cycle
import Agenda.Proofs.Recurrence.NextDate

/-!
# Rules and the 400-year cycle

A rule comes up again 400 years later on the same days, counted from an anchor 400 years later: its
intervals are counted in days, its weekdays and month lengths come back, and a chain of single years
is carried along. So the next date is carried along too, as long as the calendar lasts
(`nextDate_cycle`).
-/

namespace Agenda

open Calendar Recurrence

variable {now now' anchor anchor' date date' : Date}

private theorem DaySelector.picks_iff_of_isCycleLater (hdate : date.IsCycleLater date')
    (selector : DaySelector) : selector.Picks date ↔ selector.Picks date' := by
  unfold Picks
  rw [hdate.monthLength_eq, hdate.day]

namespace Rule

private theorem picksDay_iff_of_isCycleLater (hdate : date.IsCycleLater date')
    (days : NumberSet DaySelector) (months : NumberSet Nat) :
    PicksDay days months date ↔ PicksDay days months date' := by
  unfold PicksDay
  rw [hdate.month]
  exact and_congr Iff.rfl (exists_congr fun selector ↦
    and_congr Iff.rfl (selector.picks_iff_of_isCycleLater hdate))

private theorem occurs_iff_of_isCycleLater (rule : Rule) (hanchor : anchor.IsCycleLater anchor')
    (hdate : date.IsCycleLater date') : rule.Occurs anchor date ↔ rule.Occurs anchor' date' := by
  cases rule with
  | daily interval =>
    unfold Occurs
    rw [hanchor.number_eq, hdate.number_eq]
    exact exists_congr fun count ↦ and_congr Iff.rfl (by omega)
  | yearly =>
    exact exists_congr fun years ↦
      and_congr Iff.rfl (hanchor.yearsLater?_eq_some_iff hdate years)
  | weekly weekdays => exact and_congr (hanchor.lt_iff hdate) (by rw [hdate.weekday_eq])
  | monthly days months =>
    exact and_congr (hanchor.lt_iff hdate) (picksDay_iff_of_isCycleLater hdate days months)

private theorem mem_upcoming_iff_of_isCycleLater {rule : Rule} (hnow : now.IsCycleLater now')
    (hanchor : anchor.IsCycleLater anchor') (hdate : date.IsCycleLater date')
    (hevaluated : rule.IsEvaluated date') :
    date ∈ rule.Upcoming now anchor ↔ date' ∈ rule.Upcoming now' anchor' := by
  have hlt : date ≤ date' := by
    rw [Date.le_iff_number_le, hdate.number_eq]
    omega
  have hboth : rule.IsEvaluated date ↔ rule.IsEvaluated date' :=
    iff_of_true (isEvaluated_of_le hevaluated hlt) hevaluated
  exact and_congr (hnow.lt_iff hdate)
    (and_congr (rule.occurs_iff_of_isCycleLater hanchor hdate) hboth)

end Rule

private theorem nextDate_eq_ok_iff_of_isCycleLater {rule : Rule} (hnow : now.IsCycleLater now')
    (hanchor : anchor.IsCycleLater anchor') (hdate : date.IsCycleLater date')
    (hevaluated : rule.IsEvaluated date') :
    nextDate now anchor rule = .ok date ↔ nextDate now' anchor' rule = .ok date' := by
  by_cases hrule : rule = .daily 0
  · subst hrule
    simp only [nextDate_daily_zero, reduceCtorEq]
  · rw [nextDate_eq_ok_iff hrule, nextDate_eq_ok_iff hrule]
    have hmem := Rule.mem_upcoming_iff_of_isCycleLater hnow hanchor hdate hevaluated
    constructor
    · rintro ⟨hdateMem, hleast⟩
      refine ⟨hmem.1 hdateMem, fun x' hx' ↦ ?_⟩
      -- A date that comes up after the later anchor has one 400 years before.
      have hyear := Date.year_le_of_le (le_of_lt (Rule.lt_of_occurs hrule hx'.2.1))
      have hfirst := anchor.year_mem.1
      have hshift := hanchor.year
      obtain ⟨x, hx⟩ := Date.exists_isCycleLater_of_le x' (by omega)
      have hxMem := (Rule.mem_upcoming_iff_of_isCycleLater hnow hanchor hx hx'.2.2).2 hx'
      exact (hdate.le_iff hx).1 (hleast hxMem)
    · rintro ⟨hdateMem, hleast⟩
      refine ⟨hmem.2 hdateMem, fun x hxMem ↦ ?_⟩
      -- A date before has one 400 years on, on which the rule is evaluated as well.
      by_contra hlt
      have hxyear := Date.year_le_of_le (le_of_lt (lt_of_not_ge hlt))
      have hlast := date'.year_mem.2
      have hshift := hdate.year
      obtain ⟨x', hx⟩ := Date.exists_isCycleLater x (by omega)
      have hle : x' ≤ date' := (hx.le_iff hdate).1 (le_of_lt (lt_of_not_ge hlt))
      have hxEvaluated := Rule.isEvaluated_of_le hevaluated hle
      have hx' := (Rule.mem_upcoming_iff_of_isCycleLater hnow hanchor hx hxEvaluated).1 hxMem
      exact hlt ((hdate.le_iff hx).2 (hleast hx'))

/-- The schedule repeats with the cycle of 400 years: with the current day and the anchor 400 years
later, the same month and day each, a rule of any kind has the date 400 years later as its next one,
wherever that lies before the calendar's last year. -/
theorem nextDate_cycle {rule : Rule} (h : nextDate now anchor rule = .ok date)
    (hyear : date.year ≤ 261741) :
    ∃ now' anchor' date' : Date, now.IsCycleLater now' ∧ anchor.IsCycleLater anchor' ∧
      date.IsCycleLater date' ∧ nextDate now' anchor' rule = .ok date' := by
  have hrule : rule ≠ .daily 0 := by
    rintro rfl
    rw [nextDate_daily_zero] at h
    exact absurd h (by simp)
  have hoccurs := ((nextDate_eq_ok_iff hrule).1 h).1.2.1
  have hnowYear := Date.year_le_of_le (le_of_lt (lt_of_nextDate_eq_ok h))
  have hanchorYear := Date.year_le_of_le (le_of_lt (Rule.lt_of_occurs hrule hoccurs))
  have hlast : lastYear = 262142 := rfl
  -- The next date is the latest of the three, so its bound leaves room for all of them.
  obtain ⟨now', hnow⟩ := Date.exists_isCycleLater now (by omega)
  obtain ⟨anchor', hanchor⟩ := Date.exists_isCycleLater anchor (by omega)
  obtain ⟨date', hdate⟩ := Date.exists_isCycleLater date (by omega)
  have hevaluated : rule.IsEvaluated date' := by
    have hshift := hdate.year
    cases rule with
    | monthly days months =>
      intro hfinal
      have := hfinal.1
      omega
    | daily | yearly | weekly => trivial
  exact ⟨now', anchor', date', hnow, hanchor, hdate,
    (nextDate_eq_ok_iff_of_isCycleLater hnow hanchor hdate hevaluated).1 h⟩

/-- A yearly task of 29 February goes on on 1 March, in a year before year 0 and 400 years later. -/
theorem nextDate_cycle_leap_day :
    nextDate (.civil (-4) 2 29 (by decide)) (.civil (-4) 2 29 (by decide)) .yearly =
      .ok (.civil (-3) 3 1 (by decide)) ∧
    (Date.civil (-3) 3 1 (by decide)).year ≤ 261741 ∧
    ∃ now' anchor' date' : Date,
      (Date.civil (-4) 2 29 (by decide)).IsCycleLater now' ∧
      (Date.civil (-4) 2 29 (by decide)).IsCycleLater anchor' ∧
      (Date.civil (-3) 3 1 (by decide)).IsCycleLater date' ∧
      nextDate now' anchor' .yearly = .ok date' := by
  have hnext : nextDate (.civil (-4) 2 29 (by decide)) (.civil (-4) 2 29 (by decide)) .yearly =
      .ok (.civil (-3) 3 1 (by decide)) := by
    decide
  have hyear : (Date.civil (-3) 3 1 (by decide)).year ≤ 261741 := by decide
  exact ⟨hnext, hyear, nextDate_cycle hnext hyear⟩

end Agenda
