import Agenda.Proofs.Calendar.Year

/-!
# The 400-year cycle of the calendar

After 400 years the calendar comes back: leap years and month lengths are the same and 146097 days
have gone by, which are whole weeks. A date and the one 400 years later are as far from any other
two such dates, fall on the same day of the week and lead to such dates again in later years.
-/

namespace Agenda.Calendar

/-- The same year of the next cycle is a leap year exactly if this one is. -/
theorem isLeap_add_cycle (year : Int) : isLeap (year + 400) = isLeap year := by
  rw [Bool.eq_iff_iff, isLeap_iff, isLeap_iff]
  omega

private theorem daysBeforeYear_add_cycle (year : Int) :
    daysBeforeYear (year + 400) = daysBeforeYear year + 146097 := by
  unfold daysBeforeYear
  omega

namespace Date

/-- The later date is the same month and day 400 years on. -/
structure IsCycleLater (date later : Date) : Prop where
  year : later.year = date.year + 400
  month : later.month = date.month
  day : later.day = date.day

/-- There is a date 400 years on as long as the calendar has the year. -/
theorem exists_isCycleLater (date : Date) (h : date.year + 400 ≤ lastYear) :
    ∃ later, IsCycleLater date later := by
  have hfirst := date.year_mem.1
  have hlen := monthLength_eq_of_isLeap_eq (isLeap_add_cycle date.year) date.month
  exact ⟨⟨date.year + 400, date.month, date.day, ⟨by omega, h⟩, hlen ▸ date.day_mem⟩, rfl, rfl, rfl⟩

/-- There is a date 400 years before as long as the calendar has the year. -/
theorem exists_isCycleLater_of_le (later : Date) (h : firstYear + 400 ≤ later.year) :
    ∃ date, IsCycleLater date later := by
  have hlast := later.year_mem.2
  have hlen := monthLength_eq_of_isLeap_eq (isLeap_add_cycle (later.year - 400)) later.month
  rw [Int.sub_add_cancel] at hlen
  exact ⟨⟨later.year - 400, later.month, later.day, ⟨by omega, by omega⟩, hlen ▸ later.day_mem⟩,
    by simp, rfl, rfl⟩

namespace IsCycleLater

variable {a a' b b' : Date}

/-- The months of both dates have the same length. -/
theorem monthLength_eq (h : IsCycleLater a a') :
    monthLength a'.year a'.month = monthLength a.year a.month := by
  rw [h.year, h.month]
  exact monthLength_eq_of_isLeap_eq (isLeap_add_cycle a.year) a.month

/-- The date 400 years on is 146097 days on. -/
theorem number_eq (h : IsCycleLater a a') : a'.number = a.number + 146097 := by
  have hkind : isLeap a.year = isLeap a'.year := by rw [h.year, isLeap_add_cycle]
  have hnumbers := number_sub_number_of_isLeap_eq hkind h.month.symm h.day.symm
  rw [h.year, daysBeforeYear_add_cycle] at hnumbers
  omega

/-- The dates 400 years on are in the same order. -/
theorem lt_iff (ha : IsCycleLater a a') (hb : IsCycleLater b b') : a < b ↔ a' < b' := by
  rw [lt_iff_number_lt, lt_iff_number_lt, ha.number_eq, hb.number_eq]
  omega

/-- The dates 400 years on are in the same order. -/
theorem le_iff (ha : IsCycleLater a a') (hb : IsCycleLater b b') : a ≤ b ↔ a' ≤ b' := by
  rw [le_iff_number_le, le_iff_number_le, ha.number_eq, hb.number_eq]
  omega

/-- The date 400 years on is the same day of the week: the days of a cycle are 20871 weeks. -/
theorem weekday_eq (h : IsCycleLater a a') : a'.weekday = a.weekday := by
  unfold weekday
  rw [h.number_eq]
  omega

private theorem nextYear?_eq_some_iff (ha : IsCycleLater a a') (hb : IsCycleLater b b') :
    a.nextYear? = some b ↔ a'.nextYear? = some b' := by
  have hleap : a.IsLeapDay ↔ a'.IsLeapDay := by
    unfold IsLeapDay
    rw [ha.month, ha.day]
  have hay := ha.year
  have hby := hb.year
  unfold nextYear?
  by_cases h : a.IsLeapDay
  · rw [if_pos h, if_pos (hleap.1 h), ofCivil?_eq_some_iff, ofCivil?_eq_some_iff, hb.month, hb.day]
    omega
  · rw [if_neg h, if_neg (mt hleap.2 h), ofCivil?_eq_some_iff, ofCivil?_eq_some_iff, hb.month,
      hb.day, ha.month, ha.day]
    omega

/-- Any number of single years leads from dates 400 years apart to such dates. -/
theorem yearsLater?_eq_some_iff (ha : IsCycleLater a a') (hb : IsCycleLater b b') (years : Nat) :
    a.yearsLater? years = some b ↔ a'.yearsLater? years = some b' := by
  induction years generalizing b b' with
  | zero =>
    simp only [yearsLater?, Option.some.injEq]
    rw [le_antisymm_iff, le_antisymm_iff, ha.le_iff hb, hb.le_iff ha]
  | succ years ih =>
    simp only [yearsLater?, Option.bind_eq_some_iff]
    -- The date one year before exists 400 years on and 400 years back as well.
    constructor
    · rintro ⟨c, hc, hnext⟩
      have hyear := (nextYear?_spec hnext).1
      have hlast := b'.year_mem.2
      have hby := hb.year
      obtain ⟨c', hcc⟩ := exists_isCycleLater c (by omega)
      exact ⟨c', (ih hcc).1 hc, (hcc.nextYear?_eq_some_iff hb).1 hnext⟩
    · rintro ⟨c', hc', hnext⟩
      have hyear := year_of_yearsLater? hc'
      have hfirst := a.year_mem.1
      have hay := ha.year
      obtain ⟨c, hcc⟩ := exists_isCycleLater_of_le c' (by omega)
      exact ⟨c, (ih hcc).2 hc', (hcc.nextYear?_eq_some_iff hb).2 hnext⟩

end IsCycleLater

end Date

end Agenda.Calendar
