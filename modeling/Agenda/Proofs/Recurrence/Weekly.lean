import Agenda.Proofs.Recurrence.Occurrence
import Agenda.Proofs.Recurrence.Search

/-!
# Weekly rules

The weekly walk scans the calendar day by day, and a day of the week comes again after seven of
them, so the search is exact (`firstOf_weekly`).
-/

namespace Agenda

open Calendar

namespace Calendar.Date

/-- Days a number of weeks apart are the same day of the week. -/
theorem weekday_eq_of_number_eq {a b : Date} (weeks : Int) (h : b.number = a.number + 7 * weeks) :
    b.weekday = a.weekday := by
  unfold weekday
  rw [h]
  omega

/-- Up to any later date its day of the week comes within seven days. -/
theorem exists_weekday_eq {cursor x : Date} (h : cursor ≤ x) :
    ∃ y, cursor ≤ y ∧ y ≤ x ∧ y.number < cursor.number + 7 ∧ y.weekday = x.weekday := by
  have hle := le_iff_number_le.1 h
  obtain ⟨y, hy⟩ := exists_number_eq (a := cursor) (b := x)
    (cursor.number + (x.number - cursor.number) % 7) (by omega) (by omega)
  refine ⟨y, by rw [le_iff_number_le]; omega, by rw [le_iff_number_le]; omega, by omega, ?_⟩
  refine (weekday_eq_of_number_eq ((x.number - cursor.number) / 7) ?_).symm
  omega

end Calendar.Date

namespace Recurrence

/-- A weekly walk scans for the days of the week, day by day. -/
theorem isScan_weeklyStep (weekdays : NumberSet Nat) :
    IsScan (fun x ↦ x.weekday ∈ weekdays) Date.number (weeklyStep weekdays) where
  place_mono := Date.le_iff_number_le.1
  step_none := rfl
  step_some cursor := by
    by_cases hday : cursor.weekday ∈ weekdays
    · refine .inl ⟨cursor, cursor.next?, ?_, ⟨le_rfl, hday⟩, fun x hx ↦ hx.1⟩
      simp only [weeklyStep, Option.map_some, if_pos hday]
    · refine .inr ⟨cursor.next?, ?_, ⟨fun later hlater ↦ ?_, fun x hx hfits ↦ ?_⟩⟩
      · simp only [weeklyStep, Option.map_some, if_neg hday]
      · have hlt := (Date.lt_iff_next_le hlater).2 le_rfl
        exact ⟨le_of_lt hlt, Date.lt_iff_number_lt.1 hlt⟩
      · have hlt : cursor < x := lt_of_le_of_ne hx fun heq ↦ hday (by rw [heq]; exact hfits)
        cases hnext : cursor.next? with
        | none => exact absurd hlt (not_lt_of_ge (Date.next?_eq_none_iff.1 hnext x))
        | some later => exact ⟨later, rfl, (Date.lt_iff_next_le hnext).1 hlt⟩

/-- The search of a weekly rule gives the first of its days after both dates. -/
theorem firstOf_weekly (now anchor : Date) (weekdays : NumberSet Nat) :
    FirstOf {x | now < x ∧ anchor < x ∧ x.weekday ∈ weekdays}
      (find? now anchor (.weekly weekdays)) := by
  refine (isScan_weeklyStep weekdays).firstOf_search ?_ now anchor
  intro cursor x hle hfits
  obtain ⟨y, hy, _, hnumber, hday⟩ := Date.exists_weekday_eq hle
  refine ⟨y, hy, by rw [hday]; exact hfits, ?_⟩
  unfold maxSteps
  omega

end Recurrence

end Agenda
