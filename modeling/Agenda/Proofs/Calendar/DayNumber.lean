import Mathlib.Order.Cover
import Agenda.Calendar.Date
import Agenda.Proofs.Calendar.Gregorian

/-!
# Dates and their day numbers

Dates and day numbers are in bijection over the range of the calendar, the order of the numbers is
that of year, month and day, and day arithmetic is addition of numbers that fails exactly outside
the calendar (`ofNumber?_eq_some_iff`, `exists_number_eq`).
-/

namespace Agenda.Calendar.Date

/-- The date with the given numbers, which are checked where they are written. -/
def civil (year : Int) (month day : Nat) (h : (ofCivil? year month day).isSome) : Date :=
  (ofCivil? year month day).get h

/-- The order of dates is that of their numbers. -/
theorem lt_iff_number_lt {a b : Date} : a < b ↔ a.number < b.number := Iff.rfl

/-- The order of dates is that of their numbers. -/
theorem le_iff_number_le {a b : Date} : a ≤ b ↔ a.number ≤ b.number := Iff.rfl

/-- The month of a date is one of the twelve. -/
theorem month_mem (date : Date) : 1 ≤ date.month ∧ date.month ≤ 12 := by
  have h := date.day_mem
  have hrest : date.day - 1 < monthLength date.year date.month := by omega
  exact month_mem_of_lt_monthLength hrest

/-- A date is read off its three numbers. -/
theorem ofCivil?_eq_some_iff {year : Int} {month day : Nat} {date : Date} :
    ofCivil? year month day = some date ↔
      date.year = year ∧ date.month = month ∧ date.day = day := by
  constructor
  · intro h
    unfold ofCivil? at h
    split at h
    · rw [← Option.some.inj h]
      exact ⟨rfl, rfl, rfl⟩
    · exact absurd h (by simp)
  · rintro ⟨rfl, rfl, rfl⟩
    exact dif_pos ⟨date.year_mem, date.day_mem⟩

/-- Three numbers name no date if the year is outside the calendar or has no such day. -/
theorem ofCivil?_eq_none_iff {year : Int} {month day : Nat} :
    ofCivil? year month day = none ↔
      ¬((firstYear ≤ year ∧ year ≤ lastYear) ∧ 1 ≤ day ∧ day ≤ monthLength year month) := by
  unfold ofCivil?
  split
  · next h => simp [h]
  · next h => simp [h]

/-- Dates with the same three numbers are equal. -/
theorem eq_of_civil_eq {a b : Date} (hy : a.year = b.year) (hm : a.month = b.month)
    (hd : a.day = b.day) : a = b := by
  obtain ⟨year, month, day, _, _⟩ := a
  obtain ⟨_, _, _, _, _⟩ := b
  simp only at hy hm hd
  subst hy hm hd
  rfl

/-! ### Calendar order -/

/-- A date lies within its year. -/
theorem number_mem_year (date : Date) :
    daysBeforeYear date.year ≤ date.number ∧ date.number < daysBeforeYear (date.year + 1) := by
  have hd := date.day_mem
  have hm := date.month_mem
  have hs := daysBeforeMonth_succ date.year date.month
  have hle := daysBeforeMonth_le date.year (show date.month + 1 ≤ 13 by omega)
  rw [daysBeforeYear_succ]
  unfold number yearLength
  omega

/-- A date of an earlier year comes first. -/
theorem lt_of_year_lt {a b : Date} (h : a.year < b.year) : a < b := by
  have ha := a.number_mem_year
  have hb := b.number_mem_year
  have := daysBeforeYear_le (show a.year + 1 ≤ b.year by omega)
  rw [lt_iff_number_lt]
  omega

private theorem lt_of_month_lt {a b : Date} (hy : a.year = b.year) (hm : a.month < b.month) :
    a < b := by
  have ha := a.day_mem
  have hb := b.day_mem
  have hs := daysBeforeMonth_succ a.year a.month
  have hle := daysBeforeMonth_le a.year (show a.month + 1 ≤ b.month by omega)
  rw [lt_iff_number_lt]
  unfold number
  rw [← hy]
  omega

/-- Within a month, the numbers count the days. -/
theorem number_sub_number {a b : Date} (hy : a.year = b.year) (hm : a.month = b.month) :
    b.number - a.number = b.day - a.day := by
  unfold number
  rw [hy, hm]
  omega

/-- The same month and day of two years of one kind are as far apart as the years. -/
theorem number_sub_number_of_isLeap_eq {a b : Date} (hkind : isLeap a.year = isLeap b.year)
    (hm : a.month = b.month) (hd : a.day = b.day) :
    b.number - a.number = daysBeforeYear b.year - daysBeforeYear a.year := by
  have hbefore := daysBeforeMonth_eq_of_isLeap_eq hkind a.month
  unfold number
  rw [← hm, ← hd, hbefore]
  omega

/-- The order of dates is that of year, month and day. -/
theorem lt_iff_civil_lt {a b : Date} :
    a < b ↔ a.year < b.year ∨
      a.year = b.year ∧ (a.month < b.month ∨ a.month = b.month ∧ a.day < b.day) := by
  constructor
  · intro h
    rcases Int.lt_trichotomy a.year b.year with hy | hy | hy
    · exact .inl hy
    · rcases Nat.lt_trichotomy a.month b.month with hm | hm | hm
      · exact .inr ⟨hy, .inl hm⟩
      · have hd := number_sub_number hy hm
        have := lt_iff_number_lt.1 h
        exact .inr ⟨hy, .inr ⟨hm, by omega⟩⟩
      · exact absurd h (Int.lt_asymm (lt_of_month_lt hy.symm hm))
    · exact absurd h (Int.lt_asymm (lt_of_year_lt hy))
  · rintro (hy | ⟨hy, hm | ⟨hm, hd⟩⟩)
    · exact lt_of_year_lt hy
    · exact lt_of_month_lt hy hm
    · have := number_sub_number hy hm
      rw [lt_iff_number_lt]
      omega

/-- Different dates have different numbers. -/
theorem number_injective {a b : Date} (h : a.number = b.number) : a = b := by
  have hab := mt lt_iff_civil_lt.2 (show ¬a < b from Int.not_lt.2 (Int.le_of_eq h.symm))
  have hba := mt lt_iff_civil_lt.2 (show ¬b < a from Int.not_lt.2 (Int.le_of_eq h))
  exact eq_of_civil_eq (by omega) (by omega) (by omega)

instance : LinearOrder Date where
  le_refl a := Int.le_refl a.number
  le_trans _ _ _ := Int.le_trans
  lt_iff_le_not_ge a b := Int.lt_iff_le_and_not_ge
  le_antisymm _ _ hab hba := number_injective (Int.le_antisymm hab hba)
  le_total a b := Int.le_total a.number b.number
  toDecidableLE := inferInstance
  toDecidableLT := inferInstance
  toDecidableEq := inferInstance

/-- A later date is of the same year or a later one. -/
theorem year_le_of_le {a b : Date} (h : a ≤ b) : a.year ≤ b.year := by
  by_contra hy
  exact absurd (lt_of_year_lt (by omega)) (not_lt_of_ge h)

/-! ### From numbers back to dates -/

private theorem exists_civil_of_number (number : Int) :
    ∃ year month day, ofNumber? number = ofCivil? year month day ∧
      (daysBeforeYear year ≤ number ∧ number < daysBeforeYear (year + 1)) ∧
      (1 ≤ day ∧ day ≤ monthLength year month) ∧
      daysBeforeYear year + daysBeforeMonth year month + day - 1 = number := by
  have hy := yearOfDayCount_spec number
  -- The days left over are fewer than the year has, so one of the twelve months holds them.
  have hrest : daysBeforeMonth (yearOfDayCount number) 1 +
      (number - daysBeforeYear (yearOfDayCount number)).toNat <
        daysBeforeMonth (yearOfDayCount number) (1 + 11 + 1) := by
    rw [daysBeforeYear_succ] at hy
    change 0 + _ < yearLength _
    omega
  have hm := monthAndDay_spec _ 11 1 _ hrest
  have hfound : ofNumber? number = ofCivil? (yearOfDayCount number)
      (monthAndDay (yearOfDayCount number) 11 1
        (number - daysBeforeYear (yearOfDayCount number)).toNat).1
      (monthAndDay (yearOfDayCount number) 11 1
        (number - daysBeforeYear (yearOfDayCount number)).toNat).2 := rfl
  refine ⟨_, _, _, hfound, hy, hm.1, ?_⟩
  rw [daysBeforeMonth_one] at hm
  omega

/-- A day number is found exactly from the first day of the calendar to the last. -/
theorem exists_ofNumber?_eq (number : Int)
    (h : daysBeforeYear firstYear ≤ number ∧ number < daysBeforeYear (lastYear + 1)) :
    ∃ date, ofNumber? number = some date ∧ date.number = number := by
  obtain ⟨year, month, day, hfound, hy, hd, hnumber⟩ := exists_civil_of_number number
  have hfirst : firstYear ≤ year := by
    by_contra hlt
    have := daysBeforeYear_le (show year + 1 ≤ firstYear by omega)
    omega
  have hlast : year ≤ lastYear := by
    by_contra hlt
    have := daysBeforeYear_le (show lastYear + 1 ≤ year by omega)
    omega
  refine ⟨⟨year, month, day, ⟨hfirst, hlast⟩, hd⟩, ?_, hnumber⟩
  rw [hfound]
  exact ofCivil?_eq_some_iff.2 ⟨rfl, rfl, rfl⟩

/-- A date is found for a number exactly if it has that number. -/
theorem ofNumber?_eq_some_iff {number : Int} {date : Date} :
    ofNumber? number = some date ↔ date.number = number := by
  constructor
  · intro h
    obtain ⟨year, month, day, hfound, _, _, hnumber⟩ := exists_civil_of_number number
    rw [hfound] at h
    obtain ⟨rfl, rfl, rfl⟩ := ofCivil?_eq_some_iff.1 h
    exact hnumber
  · rintro rfl
    have hy := date.number_mem_year
    have hfirst := daysBeforeYear_le date.year_mem.1
    have hlast := daysBeforeYear_le (Int.add_le_add_right date.year_mem.2 1)
    obtain ⟨found, hfound, hnumber⟩ := exists_ofNumber?_eq date.number (by omega)
    rw [hfound, number_injective hnumber]

/-- Every number between those of two dates is that of a date. -/
theorem exists_number_eq {a b : Date} (number : Int) (ha : a.number ≤ number)
    (hb : number ≤ b.number) : ∃ date : Date, date.number = number := by
  have hfirst := daysBeforeYear_le a.year_mem.1
  have hlast := daysBeforeYear_le (Int.add_le_add_right b.year_mem.2 1)
  have hya := a.number_mem_year
  have hyb := b.number_mem_year
  obtain ⟨date, _, hnumber⟩ := exists_ofNumber?_eq number (by omega)
  exact ⟨date, hnumber⟩

/-- Adding days adds to the number. -/
theorem addDays?_eq_some_iff {date later : Date} {days : Int} :
    date.addDays? days = some later ↔ later.number = date.number + days :=
  ofNumber?_eq_some_iff

/-- Days may be added at once or in two parts. -/
theorem addDays?_add {date : Date} {a b : Int} (ha : 0 ≤ a) (hb : 0 ≤ b) :
    date.addDays? (a + b) = (date.addDays? a).bind fun later ↦ later.addDays? b := by
  cases hlater : date.addDays? a with
  | some later =>
    rw [Option.bind_some, addDays?, addDays?, addDays?_eq_some_iff.1 hlater, Int.add_assoc]
  | none =>
    rw [Option.bind_none, Option.eq_none_iff_forall_ne_some]
    intro last hlast
    have hnumber := addDays?_eq_some_iff.1 hlast
    obtain ⟨later, hfound⟩ := exists_number_eq (a := date) (b := last) (date.number + a)
      (by omega) (by omega)
    rw [addDays?_eq_some_iff.2 hfound] at hlater
    exact absurd hlater (by simp)

/-- The next day has the next number. -/
theorem next?_eq_some_iff {date later : Date} :
    date.next? = some later ↔ later.number = date.number + 1 :=
  addDays?_eq_some_iff

/-- Only the last date of the calendar has no next one. -/
theorem next?_eq_none_iff {date : Date} : date.next? = none ↔ ∀ other : Date, other ≤ date := by
  constructor
  · intro h other
    by_contra hlt
    have hnumber := lt_iff_number_lt.1 (lt_of_not_ge hlt)
    obtain ⟨next, hnext⟩ := exists_number_eq (a := date) (b := other) (date.number + 1)
      (by omega) (by omega)
    rw [next?_eq_some_iff.2 hnext] at h
    exact absurd h (by simp)
  · intro h
    rw [Option.eq_none_iff_forall_ne_some]
    intro next hnext
    have hle := le_iff_number_le.1 (h next)
    have := next?_eq_some_iff.1 hnext
    omega

/-- The dates after a date are those from its next day on. -/
theorem lt_iff_next_le {date next other : Date} (h : date.next? = some next) :
    date < other ↔ next ≤ other := by
  have := next?_eq_some_iff.1 h
  rw [lt_iff_number_lt, le_iff_number_le]
  omega

/-- The next day is the one directly after. -/
theorem covBy_iff_next?_eq_some {date later : Date} : date ⋖ later ↔ date.next? = some later := by
  rw [next?_eq_some_iff]
  constructor
  · intro h
    have hlt := lt_iff_number_lt.1 h.lt
    obtain ⟨next, hnext⟩ := exists_number_eq (a := date) (b := later) (date.number + 1)
      (by omega) (by omega)
    have hafter : date < next := by
      rw [lt_iff_number_lt]
      omega
    have hnot := mt lt_iff_number_lt.2 (h.2 hafter)
    omega
  · intro hnumber
    refine ⟨lt_iff_number_lt.2 (by omega), fun other hother hlater ↦ ?_⟩
    have := lt_iff_number_lt.1 hother
    have := lt_iff_number_lt.1 hlater
    omega

end Agenda.Calendar.Date
