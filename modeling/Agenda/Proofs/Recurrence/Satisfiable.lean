import Agenda.Proofs.Recurrence.NextDate

/-!
# Rules that never come up

A rule that can be read fits no date at all exactly if it is a monthly one for given months and each
of its days is a number past the end of all of them (`Rule.FitsNoDate`). Such a rule is refused on
every day (`nextDate_of_fitsNoDate`); a monthly one that is not of this kind picks some date
(`Rule.exists_picksDay_of_not_fitsNoDate`).
-/

namespace Agenda

open Calendar

namespace Calendar

/-- The most days that a month has in any year. -/
def longestMonth : Nat → Nat
  | 2 => 29
  | 4 | 6 | 9 | 11 => 30
  | _ => 31

private theorem monthLength_le_longestMonth (year : Int) (month : Nat) :
    monthLength year month ≤ longestMonth month := by
  unfold monthLength
  split
  · split <;> decide
  all_goals simp [longestMonth]

private theorem monthLength_of_isLeap {year : Int} (h : isLeap year = true) {month : Nat}
    (hmonth : 1 ≤ month ∧ month ≤ 12) : monthLength year month = longestMonth month := by
  rcases month_cases hmonth with
    rfl | rfl | rfl | rfl | rfl | rfl | rfl | rfl | rfl | rfl | rfl | rfl
  case inr.inl => simp [monthLength, longestMonth, h]
  all_goals rfl

end Calendar

/-- A selector names a day past the end of a month in every year. -/
def DaySelector.LiesPast (selector : DaySelector) (month : Nat) : Prop :=
  match selector with
  | day number => longestMonth month < number
  | last => False
  | secondToLast => False

instance (selector : DaySelector) (month : Nat) : Decidable (selector.LiesPast month) :=
  match selector with
  | .day _ => inferInstanceAs (Decidable (_ < _))
  | .last => inferInstanceAs (Decidable False)
  | .secondToLast => inferInstanceAs (Decidable False)

private theorem DaySelector.not_liesPast_of_picks {selector : DaySelector} {date : Date}
    (h : selector.Picks date) : ¬selector.LiesPast date.month := by
  cases selector with
  | day number =>
    have hday := date.day_mem
    have hlength := monthLength_le_longestMonth date.year date.month
    simp only [Picks] at h
    simp only [LiesPast]
    omega
  | last => exact not_false
  | secondToLast => exact not_false

private theorem DaySelector.exists_picks {selector : DaySelector} {month : Nat}
    (hmonth : 1 ≤ month ∧ month ≤ 12) (hpast : ¬selector.LiesPast month)
    (hday : ∀ number, selector = .day number → 1 ≤ number) :
    ∃ date : Date, date.month = month ∧ selector.Picks date := by
  have hyear : firstYear ≤ 2000 ∧ 2000 ≤ lastYear := by decide
  have hlength := monthLength_of_isLeap (show isLeap 2000 = true by decide) hmonth
  have hleast := le_monthLength 2000 hmonth
  cases selector with
  | day number =>
    have := hday number rfl
    simp only [LiesPast] at hpast
    exact ⟨⟨2000, month, number, hyear, by omega⟩, rfl, rfl⟩
  | last => exact ⟨⟨2000, month, monthLength 2000 month, hyear, by omega⟩, rfl, rfl⟩
  | secondToLast =>
    refine ⟨⟨2000, month, monthLength 2000 month - 1, hyear, by omega⟩, rfl, ?_⟩
    simp only [Picks]
    omega

namespace Rule

/-- The rule is for given months, and each of its days is a number past the end of all of them. -/
def FitsNoDate : Rule → Prop
  | monthly days months =>
    months.toList ≠ [] ∧ ∀ selector ∈ days.toList, ∀ month ∈ months.toList, selector.LiesPast month
  | _ => False

instance (rule : Rule) : Decidable rule.FitsNoDate :=
  match rule with
  | .daily _ => inferInstanceAs (Decidable False)
  | .yearly => inferInstanceAs (Decidable False)
  | .weekly _ => inferInstanceAs (Decidable False)
  | .monthly _ _ => inferInstanceAs (Decidable (_ ∧ _))

variable {rule : Rule} {now anchor : Date}

/-- Such a rule has no day that is counted from the end of a month. -/
theorem fitsNoDate_iff : rule.FitsNoDate ↔ ∃ days months, rule = monthly days months ∧
    months.toList ≠ [] ∧ .last ∉ days ∧ .secondToLast ∉ days ∧
    ∀ number, .day number ∈ days → ∀ month ∈ months, longestMonth month < number := by
  constructor
  · intro h
    cases rule with
    | daily interval => exact h.elim
    | yearly => exact h.elim
    | weekly weekdays => exact h.elim
    | monthly days months =>
      obtain ⟨hne, hpast⟩ := h
      obtain ⟨month, hmonth⟩ := List.exists_mem_of_ne_nil _ hne
      refine ⟨days, months, rfl, hne, ?_, ?_, ?_⟩
      · intro hlast
        exact hpast _ hlast month hmonth
      · intro hlast
        exact hpast _ hlast month hmonth
      · intro number hday other hother
        exact hpast _ hday other hother
  · rintro ⟨days, months, rfl, hne, hlast, hsecond, hdays⟩
    refine ⟨hne, ?_⟩
    intro selector hselector month hmonth
    cases selector with
    | day number => exact hdays number hselector month hmonth
    | last => exact hlast hselector
    | secondToLast => exact hsecond hselector

private theorem not_occurs_of_fitsNoDate (h : rule.FitsNoDate) (anchor date : Date) :
    ¬rule.Occurs anchor date := by
  cases rule with
  | monthly days months =>
    rintro ⟨_, hmonth, selector, hselector, hpicks⟩
    rcases hmonth with hnone | hmonth
    · exact h.1 hnone
    · exact DaySelector.not_liesPast_of_picks hpicks (h.2 selector hselector date.month hmonth)
  | daily interval => exact h.elim
  | yearly => exact h.elim
  | weekly weekdays => exact h.elim

/-- A monthly rule that is read picks some date, unless it fits none. -/
theorem exists_picksDay_of_not_fitsNoDate {days : NumberSet DaySelector} {months : NumberSet Nat}
    (hrule : (monthly days months).WellFormed) (h : ¬(monthly days months).FitsNoDate) :
    ∃ date, PicksDay days months date := by
  obtain ⟨hne, hdays, hmonths⟩ := hrule
  by_cases hnone : months.toList = []
  · -- Without months January will do, where every day that can be read exists.
    obtain ⟨selector, hselector⟩ := List.exists_mem_of_ne_nil _ hne
    have hpast : ¬selector.LiesPast 1 := by
      cases selector with
      | day number => exact Nat.not_lt_of_ge (hdays number hselector).2
      | last => exact not_false
      | secondToLast => exact not_false
    obtain ⟨date, _, hpicks⟩ := DaySelector.exists_picks (by decide) hpast
      fun number hnumber ↦ (hdays number (hnumber ▸ hselector)).1
    exact ⟨date, .inl hnone, selector, hselector, hpicks⟩
  · simp only [FitsNoDate, not_and, not_forall] at h
    obtain ⟨selector, hselector, month, hmonth, hpast⟩ := h hnone
    obtain ⟨date, rfl, hpicks⟩ := DaySelector.exists_picks (hmonths month hmonth) hpast
      fun number hnumber ↦ (hdays number (hnumber ▸ hselector)).1
    exact ⟨date, .inr hmonth, selector, hselector, hpicks⟩

end Rule

variable {rule : Rule} {now anchor : Date}

/-- A rule that fits no date is refused on every day. -/
theorem nextDate_of_fitsNoDate (h : rule.FitsNoDate) (now anchor : Date) :
    nextDate now anchor rule = .error (.unsatisfiableRule rule.text) := by
  have hrule : rule ≠ .daily 0 := by
    rintro rfl
    exact h
  refine (nextDate_eq_error_iff hrule).2 ⟨rfl, Set.eq_empty_of_forall_notMem fun x hx ↦ ?_⟩
  exact Rule.not_occurs_of_fitsNoDate h anchor x hx.2.1

end Agenda
