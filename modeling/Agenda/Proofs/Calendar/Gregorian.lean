import Mathlib.Order.Bounds.Basic
import Agenda.Calendar.Gregorian

/-!
# Laws of the Gregorian year

A month has the days that the rule of the leap years gives it (`hasDay_iff`). The year that
`yearOfDayCount` guesses really holds the day, the month that `monthAndDay` searches for really
holds the rest, and different dates have different day counts, in calendar order. Over eight years
in a row both kinds of year come up, each again after 2921 days at most.
-/

namespace Agenda.Calendar

/-- The number of days in a year. -/
def yearLength (year : Int) : Nat := daysBeforeMonth year 13

/-- The first year starts the count. -/
theorem daysBeforeMonth_one (year : Int) : daysBeforeMonth year 1 = 0 := rfl

/-- A year has 365 days, a leap year one more. -/
theorem yearLength_eq (year : Int) : yearLength year = if isLeap year then 366 else 365 := by
  unfold yearLength
  simp only [daysBeforeMonth, monthLength]
  split <;> rfl

/-- A leap year as divisibility. -/
theorem isLeap_iff (year : Int) :
    isLeap year = true ↔ year % 4 = 0 ∧ (year % 100 ≠ 0 ∨ year % 400 = 0) := by
  simp [isLeap]

/-- The next year starts where the year ends. -/
theorem daysBeforeYear_succ (year : Int) :
    daysBeforeYear (year + 1) = daysBeforeYear year + yearLength year := by
  rw [yearLength_eq]
  have hl := isLeap_iff year
  unfold daysBeforeYear
  split
  · next h =>
    have := hl.1 h
    omega
  · next h =>
    have : ¬(year % 4 = 0 ∧ (year % 100 ≠ 0 ∨ year % 400 = 0)) := fun hy ↦ h (hl.2 hy)
    omega

/-- Later years start later. -/
theorem daysBeforeYear_le {a b : Int} (h : a ≤ b) : daysBeforeYear a ≤ daysBeforeYear b := by
  unfold daysBeforeYear
  omega

/-- A number that is no month has no days. -/
theorem month_mem_of_lt_monthLength {year : Int} {month rest : Nat}
    (h : rest < monthLength year month) : 1 ≤ month ∧ month ≤ 12 := by
  unfold monthLength at h
  split at h <;> omega

/-- The twelve months. -/
theorem month_cases {month : Nat} (h : 1 ≤ month ∧ month ≤ 12) :
    month = 1 ∨ month = 2 ∨ month = 3 ∨ month = 4 ∨ month = 5 ∨ month = 6 ∨ month = 7 ∨
      month = 8 ∨ month = 9 ∨ month = 10 ∨ month = 11 ∨ month = 12 := by
  omega

/-- A month has at least 28 days. -/
theorem le_monthLength (year : Int) {month : Nat} (h : 1 ≤ month ∧ month ≤ 12) :
    28 ≤ monthLength year month := by
  rcases month_cases h with
    rfl | rfl | rfl | rfl | rfl | rfl | rfl | rfl | rfl | rfl | rfl | rfl
  case inr.inl =>
    simp only [monthLength]
    split <;> decide
  all_goals simp [monthLength]

/-- A month has a day by the rule of the calendar. Each of the twelve months has 28 days. February
has a 29th in every fourth year, except three of four century years; the others have 30, and seven
of them a 31st. -/
def HasDay (year : Int) (month day : Nat) : Prop :=
  (1 ≤ month ∧ month ≤ 12) ∧ 1 ≤ day ∧
    (day ≤ 28 ∨
      month = 2 ∧ day = 29 ∧ 4 ∣ year ∧ (¬100 ∣ year ∨ 400 ∣ year) ∨
      month ≠ 2 ∧ day ≤ 30 ∨
      (month = 1 ∨ month = 3 ∨ month = 5 ∨ month = 7 ∨ month = 8 ∨ month = 10 ∨ month = 12) ∧
        day = 31)

/-- The days of a month are numbered from one to its length. -/
theorem hasDay_iff {year : Int} {month day : Nat} :
    HasDay year month day ↔ 1 ≤ day ∧ day ≤ monthLength year month := by
  by_cases hmonth : 1 ≤ month ∧ month ≤ 12
  · rcases month_cases hmonth with
      rfl | rfl | rfl | rfl | rfl | rfl | rfl | rfl | rfl | rfl | rfl | rfl
    case inr.inl =>
      have hleap := isLeap_iff year
      rw [monthLength]
      unfold HasDay
      split
      · next h =>
        have := hleap.1 h
        omega
      · next h =>
        have := mt hleap.2 h
        omega
    all_goals
      rw [monthLength]
      unfold HasDay
      omega
  · refine iff_of_false (fun h ↦ hmonth h.1) fun h ↦ hmonth ?_
    have hrest : day - 1 < monthLength year month := by omega
    exact month_mem_of_lt_monthLength hrest

/-- The greatest day of a month is its length. -/
theorem isGreatest_hasDay_iff {year : Int} {month day : Nat} :
    IsGreatest {day | HasDay year month day} day ↔
      (1 ≤ month ∧ month ≤ 12) ∧ day = monthLength year month := by
  constructor
  · rintro ⟨hday, hupper⟩
    have hmonth := hday.1
    have hlen := le_monthLength year hmonth
    have hlast : monthLength year month ≤ day := hupper (hasDay_iff.2 ⟨by omega, le_rfl⟩)
    exact ⟨hmonth, Nat.le_antisymm (hasDay_iff.1 hday).2 hlast⟩
  · rintro ⟨hmonth, rfl⟩
    have hlen := le_monthLength year hmonth
    exact ⟨hasDay_iff.2 ⟨by omega, le_rfl⟩, fun _ h ↦ (hasDay_iff.1 h).2⟩

/-- A month ends where the next one starts. -/
theorem daysBeforeMonth_succ (year : Int) (month : Nat) :
    daysBeforeMonth year (month + 1) = daysBeforeMonth year month + monthLength year month := rfl

/-- Later months start later. -/
theorem daysBeforeMonth_le (year : Int) {a b : Nat} (h : a ≤ b) :
    daysBeforeMonth year a ≤ daysBeforeMonth year b := by
  induction h with
  | refl => exact Nat.le_refl _
  | step _ ih => exact Nat.le_trans ih (Nat.le_add_right _ _)

/-- The year found for a day count is the one that holds it. -/
theorem yearOfDayCount_spec (count : Int) :
    daysBeforeYear (yearOfDayCount count) ≤ count ∧
      count < daysBeforeYear (yearOfDayCount count + 1) := by
  unfold yearOfDayCount
  dsimp only
  split
  · next h =>
    unfold daysBeforeYear at *
    omega
  · next h =>
    split
    · next h' =>
      unfold daysBeforeYear at *
      omega
    · next h' =>
      unfold daysBeforeYear at *
      omega

/-- The search from a month on finds the month and the day that the rest comes to. -/
theorem monthAndDay_spec (year : Int) (months month rest : Nat)
    (h : daysBeforeMonth year month + rest < daysBeforeMonth year (month + months + 1)) :
    (1 ≤ (monthAndDay year months month rest).2 ∧
      (monthAndDay year months month rest).2 ≤
        monthLength year (monthAndDay year months month rest).1) ∧
    daysBeforeMonth year (monthAndDay year months month rest).1 +
      (monthAndDay year months month rest).2 = daysBeforeMonth year month + rest + 1 := by
  -- A month that is passed over takes its days from the rest.
  induction months generalizing month rest with
  | zero =>
    simp only [monthAndDay]
    rw [Nat.add_zero, daysBeforeMonth_succ] at h
    omega
  | succ months ih =>
    simp only [monthAndDay]
    split
    · next hlt =>
      dsimp only
      omega
    · next hlt =>
      have hm := daysBeforeMonth_succ year month
      rw [show month + (months + 1) + 1 = month + 1 + months + 1 by omega] at h
      have := ih (month + 1) (rest - monthLength year month) (by omega)
      omega

/-- Years of one kind have months of the same lengths. -/
theorem monthLength_eq_of_isLeap_eq {a b : Int} (h : isLeap a = isLeap b) (month : Nat) :
    monthLength a month = monthLength b month := by
  unfold monthLength
  rw [h]

/-- Only February depends on the year. -/
theorem monthLength_eq_of_ne_two {month : Nat} (h : month ≠ 2) (a b : Int) :
    monthLength a month = monthLength b month := by
  unfold monthLength
  split
  · exact absurd rfl h
  all_goals rfl

/-- Leap years and common years both come up within eight years. -/
theorem exists_isLeap_eq (year : Int) (leap : Bool) :
    ∃ later, year < later ∧ later ≤ year + 8 ∧ isLeap later = leap := by
  cases leap with
  | true =>
    -- Of two multiples of four in a row only one can be that of a century.
    by_cases hc : (year + (4 - year % 4)) % 100 = 0
    · refine ⟨year + (8 - year % 4), by omega, by omega, (isLeap_iff _).2 ?_⟩
      omega
    · refine ⟨year + (4 - year % 4), by omega, by omega, (isLeap_iff _).2 ?_⟩
      omega
  | false =>
    by_cases hy : year % 4 = 3
    · refine ⟨year + 2, by omega, by omega, Bool.eq_false_iff.2 fun h ↦ ?_⟩
      have := (isLeap_iff _).1 h
      omega
    · refine ⟨year + 1, by omega, by omega, Bool.eq_false_iff.2 fun h ↦ ?_⟩
      have := (isLeap_iff _).1 h
      omega

/-- Years of one kind have the same days before each month. -/
theorem daysBeforeMonth_eq_of_isLeap_eq {a b : Int} (h : isLeap a = isLeap b) (month : Nat) :
    daysBeforeMonth a month = daysBeforeMonth b month := by
  induction month with
  | zero => rfl
  | succ month ih =>
    rw [daysBeforeMonth_succ, daysBeforeMonth_succ, ih, monthLength_eq_of_isLeap_eq h]

/-- The next year of the same kind starts at most 2921 days later. It takes that long only from a
leap year across a century that is none. -/
theorem exists_next_isLeap_eq (year : Int) :
    ∃ later, year < later ∧ later ≤ year + 8 ∧ isLeap later = isLeap year ∧
      daysBeforeYear later ≤ daysBeforeYear year + 2921 := by
  cases hkind : isLeap year with
  | true =>
    have hleap := (isLeap_iff year).1 hkind
    by_cases hcentury : isLeap (year + 4) = true
    · refine ⟨year + 4, by omega, by omega, hcentury, ?_⟩
      unfold daysBeforeYear
      omega
    · -- The year left out is that of a century, so four years after it there is a leap year.
      rw [isLeap_iff] at hcentury
      refine ⟨year + 8, by omega, by omega, (isLeap_iff _).2 (by omega), ?_⟩
      unfold daysBeforeYear
      omega
  | false =>
    -- One of the next two years is common.
    obtain ⟨later, hlt, hle, hcommon⟩ : ∃ later, year < later ∧ later ≤ year + 2 ∧
        isLeap later = false := by
      by_cases hnext : isLeap (year + 1) = true
      · rw [isLeap_iff] at hnext
        refine ⟨year + 2, by omega, by omega, Bool.eq_false_iff.2 ?_⟩
        intro hafter
        rw [isLeap_iff] at hafter
        omega
      · exact ⟨year + 1, by omega, by omega, Bool.eq_false_iff.2 hnext⟩
    refine ⟨later, hlt, by omega, hcommon, ?_⟩
    unfold daysBeforeYear
    omega

end Agenda.Calendar
