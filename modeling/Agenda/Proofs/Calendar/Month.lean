import Agenda.Proofs.Calendar.DayNumber

/-!
# Months of the calendar

The months are counted on through the years. The first day of the next month lies in the next month
of this count, directly after the last day of the month before (`lastOfMonth_covBy`). Only the
calendar's final month has neither a next month nor a last day.
-/

namespace Agenda.Calendar

namespace Date

/-- The count of months up to the date's own. -/
def monthCount (date : Date) : Int := 12 * date.year + date.month

/-- The date lies in the calendar's final month, after which no other starts. -/
def InFinalMonth (date : Date) : Prop := date.year = lastYear ∧ date.month = 12

instance (date : Date) : Decidable date.InFinalMonth := inferInstanceAs (Decidable (_ ∧ _))

/-- The count tells the months of all years apart. -/
theorem monthCount_eq_iff {a b : Date} :
    a.monthCount = b.monthCount ↔ a.year = b.year ∧ a.month = b.month := by
  have ha := a.month_mem
  have hb := b.month_mem
  unfold monthCount
  omega

/-- The dates of the final month are told by their month. -/
theorem inFinalMonth_iff_of_monthCount_eq {a b : Date} (h : a.monthCount = b.monthCount) :
    a.InFinalMonth ↔ b.InFinalMonth := by
  obtain ⟨hy, hm⟩ := monthCount_eq_iff.1 h
  unfold InFinalMonth
  rw [hy, hm]

/-- A date of an earlier month comes first. -/
theorem lt_of_monthCount_lt {a b : Date} (h : a.monthCount < b.monthCount) : a < b := by
  have ha := a.month_mem
  have hb := b.month_mem
  unfold monthCount at h
  rw [lt_iff_civil_lt]
  omega

/-- A later date is of the same month or a later one. -/
theorem monthCount_le_of_le {a b : Date} (h : a ≤ b) : a.monthCount ≤ b.monthCount := by
  by_contra hlt
  exact absurd (lt_of_monthCount_lt (by omega)) (not_lt_of_ge h)

/-- Within a month the dates are ordered by their days. -/
theorem le_iff_day_le {a b : Date} (h : a.monthCount = b.monthCount) : a ≤ b ↔ a.day ≤ b.day := by
  obtain ⟨hy, hm⟩ := monthCount_eq_iff.1 h
  have := number_sub_number hy hm
  rw [le_iff_number_le]
  omega

/-! ### The ends of a month -/

/-- The first day of a date's month. -/
def firstOfMonth (date : Date) : Date :=
  ⟨date.year, date.month, 1, date.year_mem, by
    have := le_monthLength date.year date.month_mem
    omega⟩

/-- The last day of a date's month. -/
def lastOfMonth (date : Date) : Date :=
  ⟨date.year, date.month, monthLength date.year date.month, date.year_mem, by
    have := le_monthLength date.year date.month_mem
    omega⟩

private theorem day_lastOfMonth (date : Date) :
    date.lastOfMonth.day = monthLength date.year date.month := rfl

private theorem ofCivil?_eq_firstOfMonth (date : Date) :
    ofCivil? date.year date.month 1 = some date.firstOfMonth :=
  ofCivil?_eq_some_iff.2 ⟨rfl, rfl, rfl⟩

/-! ### The next month -/

/-- The month after that of a date is the same from its first day. -/
theorem firstOfNextMonth?_firstOfMonth (date : Date) :
    date.firstOfMonth.firstOfNextMonth? = date.firstOfNextMonth? := rfl

/-- The first day of the next month is day 1 of the month counted next. -/
theorem firstOfNextMonth?_eq_some_iff {date next : Date} :
    date.firstOfNextMonth? = some next ↔
      next.monthCount = date.monthCount + 1 ∧ next.day = 1 := by
  have hd := date.month_mem
  have hn := next.month_mem
  unfold firstOfNextMonth? monthCount
  split
  · rw [ofCivil?_eq_some_iff]
    omega
  · rw [ofCivil?_eq_some_iff]
    omega

/-- Only the calendar's final month has no next one. -/
theorem firstOfNextMonth?_eq_none_iff {date : Date} :
    date.firstOfNextMonth? = none ↔ date.InFinalMonth := by
  have hm := date.month_mem
  have hy := date.year_mem
  unfold firstOfNextMonth? InFinalMonth
  split
  · next hlt =>
    have hlen := le_monthLength date.year (show 1 ≤ date.month + 1 ∧ date.month + 1 ≤ 12 by omega)
    rw [ofCivil?_eq_none_iff]
    omega
  · next hge =>
    have hlen := le_monthLength (date.year + 1) (show 1 ≤ 1 ∧ 1 ≤ 12 by decide)
    have hfirst : firstYear ≤ date.year + 1 := by omega
    rw [ofCivil?_eq_none_iff]
    omega

/-- A next month starts after every month but the final one. -/
theorem exists_firstOfNextMonth?_iff {date : Date} :
    (∃ next, date.firstOfNextMonth? = some next) ↔ ¬date.InFinalMonth := by
  rw [← firstOfNextMonth?_eq_none_iff]
  exact Option.ne_none_iff_exists'.symm

/-- The dates of later months are those from the start of the next month on. -/
theorem firstOfNextMonth_le_iff {date next other : Date} (h : date.firstOfNextMonth? = some next) :
    next ≤ other ↔ date.monthCount < other.monthCount := by
  obtain ⟨hcount, hday⟩ := firstOfNextMonth?_eq_some_iff.1 h
  constructor
  · intro hle
    have := monthCount_le_of_le hle
    omega
  · intro hlt
    rcases Int.lt_or_eq_of_le (show next.monthCount ≤ other.monthCount by omega) with hc | hc
    · exact le_of_lt (lt_of_monthCount_lt hc)
    · rw [le_iff_day_le hc, hday]
      exact other.day_mem.1

/-- The next month starts later than a date. -/
theorem lt_firstOfNextMonth {date next : Date} (h : date.firstOfNextMonth? = some next) :
    date < next := lt_of_monthCount_lt ((firstOfNextMonth_le_iff h).1 le_rfl)

/-- The dates passed over up to the start of the next month are of one month. -/
theorem monthCount_eq_of_lt_firstOfNextMonth {date next other : Date}
    (h : date.firstOfNextMonth? = some next) (hle : date ≤ other) (hlt : other < next) :
    other.monthCount = date.monthCount := by
  have hlater := mt (firstOfNextMonth_le_iff h).2 (not_le_of_gt hlt)
  have := monthCount_le_of_le hle
  omega

private theorem number_firstOfNextMonth {date next : Date}
    (h : date.firstOfNextMonth? = some next) :
    next.number = date.number - date.day + monthLength date.year date.month + 1 := by
  have hm := date.month_mem
  have hs := daysBeforeMonth_succ date.year date.month
  unfold firstOfNextMonth? at h
  split at h
  · obtain ⟨hy, hmonth, hday⟩ := ofCivil?_eq_some_iff.1 h
    unfold number
    rw [hy, hmonth, hday]
    omega
  · next hge =>
    obtain ⟨hy, hmonth, hday⟩ := ofCivil?_eq_some_iff.1 h
    have h12 : date.month = 12 := by omega
    unfold number
    rw [hy, hmonth, hday, daysBeforeYear_succ, daysBeforeMonth_one, h12]
    unfold yearLength
    rw [daysBeforeMonth_succ]
    omega

/-- The next month starts directly after the last day of the month. -/
theorem lastOfMonth_covBy {date next : Date} (h : date.firstOfNextMonth? = some next) :
    date.lastOfMonth ⋖ next := by
  have hnext := number_firstOfNextMonth h
  have hlast := number_sub_number (a := date) (b := date.lastOfMonth) rfl rfl
  rw [day_lastOfMonth] at hlast
  rw [covBy_iff_next?_eq_some, next?_eq_some_iff]
  omega

/-- No date comes after the calendar's final month. -/
theorem monthCount_le_of_inFinalMonth {date : Date} (h : date.InFinalMonth) (other : Date) :
    other.monthCount ≤ date.monthCount := by
  have hm := other.month_mem
  have hy := other.year_mem
  obtain ⟨hyear, hmonth⟩ := h
  unfold monthCount
  omega

private theorem not_inFinalMonth_of_monthCount_lt {a b : Date} (h : a.monthCount < b.monthCount) :
    ¬a.InFinalMonth := fun hfinal ↦ by
  have := monthCount_le_of_inFinalMonth hfinal b
  omega

/-- Before a date of a later month there is the start of the next month. -/
theorem exists_firstOfNextMonth_le {date other : Date} (h : date.monthCount < other.monthCount) :
    ∃ next, date.firstOfNextMonth? = some next ∧ next ≤ other := by
  obtain ⟨next, hnext⟩ := exists_firstOfNextMonth?_iff.2 (not_inFinalMonth_of_monthCount_lt h)
  exact ⟨next, hnext, (firstOfNextMonth_le_iff hnext).2 h⟩

end Date

/-! ### The last day of a month -/

private theorem lastDayOfMonth?_eq (date : Date) :
    lastDayOfMonth? date.year date.month =
      date.firstOfNextMonth?.bind fun next ↦ (next.addDays? (-1)).map (·.day) := by
  unfold lastDayOfMonth?
  simp only [Date.ofCivil?_eq_firstOfMonth, Date.firstOfNextMonth?_firstOfMonth,
    Option.bind_eq_bind, Option.bind_some, Option.map_eq_bind]
  rfl

/-- The last day of a month has the month's length as its number. -/
theorem lastDayOfMonth?_of_not_inFinalMonth {date : Date} (h : ¬date.InFinalMonth) :
    lastDayOfMonth? date.year date.month = some (monthLength date.year date.month) := by
  obtain ⟨next, hnext⟩ := Date.exists_firstOfNextMonth?_iff.2 h
  have hafter := Date.next?_eq_some_iff.1
    (Date.covBy_iff_next?_eq_some.1 (Date.lastOfMonth_covBy hnext))
  have hlast : next.addDays? (-1) = some date.lastOfMonth := by
    rw [Date.addDays?_eq_some_iff]
    omega
  rw [lastDayOfMonth?_eq, hnext, Option.bind_some, hlast, Option.map_some, Date.day_lastOfMonth]

/-- No last day is found for the calendar's final month. -/
theorem lastDayOfMonth?_of_inFinalMonth {date : Date} (h : date.InFinalMonth) :
    lastDayOfMonth? date.year date.month = none := by
  rw [lastDayOfMonth?_eq, Date.firstOfNextMonth?_eq_none_iff.2 h, Option.bind_none]

/-- A last day is found for the months of the calendar other than the final one, and is that of the
month's length. -/
theorem lastDayOfMonth?_eq_some_iff {year : Int} {month day : Nat} :
    lastDayOfMonth? year month = some day ↔
      ((1 ≤ month ∧ month ≤ 12) ∧ (firstYear ≤ year ∧ year ≤ lastYear) ∧
        ¬(year = lastYear ∧ month = 12)) ∧ day = monthLength year month := by
  cases hfirst : Date.ofCivil? year month 1 with
  | none =>
    have hnone := Date.ofCivil?_eq_none_iff.1 hfirst
    constructor
    · intro h
      simp [lastDayOfMonth?, hfirst] at h
    · rintro ⟨⟨hmonth, hyear, _⟩, _⟩
      have hlen := le_monthLength year hmonth
      exact absurd ⟨hyear, le_rfl, by omega⟩ hnone
  | some first =>
    obtain ⟨rfl, rfl, _⟩ := Date.ofCivil?_eq_some_iff.1 hfirst
    by_cases hfinal : first.InFinalMonth
    · rw [lastDayOfMonth?_of_inFinalMonth hfinal]
      exact iff_of_false (by simp) fun h ↦ h.1.2.2 hfinal
    · rw [lastDayOfMonth?_of_not_inFinalMonth hfinal, Option.some.injEq, eq_comm]
      exact (and_iff_right ⟨first.month_mem, first.year_mem, hfinal⟩).symm

/-- A last day is found for the month of every date outside the final month. -/
theorem exists_lastDayOfMonth?_iff {date : Date} :
    (∃ day, lastDayOfMonth? date.year date.month = some day) ↔ ¬date.InFinalMonth := by
  constructor
  · rintro ⟨day, hday⟩
    exact (lastDayOfMonth?_eq_some_iff.1 hday).1.2.2
  · intro h
    exact ⟨_, lastDayOfMonth?_of_not_inFinalMonth h⟩

end Agenda.Calendar
