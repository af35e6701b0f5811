import Mathlib.Logic.Function.Iterate
import Agenda.Proofs.Calendar.Year

/-!
# Adding years

A number of years may be added in parts, unless the date is a 29 February. This one is kept in a
leap year if the years are added at once, and is lost to 1 March for good if they are added one by
one (`addYears?_in_parts`).
-/

namespace Agenda.Calendar.Date

variable {date later : Date}

private theorem not_isLeapDay_of_addYears? (h : ¬date.IsLeapDay) {years : Nat}
    (hlater : date.addYears? years = some later) : ¬later.IsLeapDay := by
  rw [addYears?_of_not_isLeapDay h] at hlater
  obtain ⟨_, hmonth, hday⟩ := ofCivil?_eq_some_iff.1 hlater
  unfold IsLeapDay at h ⊢
  rwa [hmonth, hday]

/-- Years added to a day other than 29 February in two goes come to the same as their sum. -/
theorem addYears?_add (h : ¬date.IsLeapDay) (a b : Nat) :
    ((date.addYears? a).bind fun later ↦ later.addYears? b) = date.addYears? (a + b) := by
  rw [← yearsLater?_of_not_isLeapDay h, ← yearsLater?_of_not_isLeapDay h, yearsLater?_add]
  refine Option.bind_congr fun later hlater ↦ ?_
  rw [yearsLater?_of_not_isLeapDay h] at hlater
  exact (yearsLater?_of_not_isLeapDay (not_isLeapDay_of_addYears? h hlater) b).symm

/-- Years added to a day other than 29 February lead nowhere exactly if they lead out of the
calendar. -/
theorem addYears?_eq_none_iff (h : ¬date.IsLeapDay) {years : Nat} :
    date.addYears? years = none ↔ lastYear < date.year + years := by
  have hday := day_mem_of_not_isLeapDay h (date.year + years)
  have hfirst := date.year_mem.1
  rw [addYears?_of_not_isLeapDay h, ofCivil?_eq_none_iff, and_iff_left hday]
  omega

/-- Years added at once to a 29 February keep it in a leap year and lead to 1 March in any other. -/
theorem addYears?_of_isLeapDay (h : date.IsLeapDay) {years : Nat}
    (hyear : date.year + years ≤ lastYear) :
    date.addYears? years =
      if isLeap (date.year + years) then ofCivil? (date.year + years) 2 29
      else ofCivil? (date.year + years) 3 1 := by
  have hfirst := date.year_mem.1
  unfold addYears?
  rw [h.1, h.2]
  split
  · next hleap =>
    have hsome : ofCivil? (date.year + years) 2 29 ≠ none := by
      rw [ne_eq, ofCivil?_eq_none_iff, not_not, monthLength, if_pos hleap]
      omega
    obtain ⟨later, hlater⟩ := Option.ne_none_iff_exists'.1 hsome
    rw [hlater, Option.some_or]
  · next hleap =>
    have hnone : ofCivil? (date.year + years) 2 29 = none := by
      rw [ofCivil?_eq_none_iff, monthLength, if_neg hleap]
      omega
    rw [hnone, Option.none_or]

private theorem yearsLater?_of_isLeapDay (h : date.IsLeapDay) {years : Nat} (hpos : 1 ≤ years) :
    date.yearsLater? years = ofCivil? (date.year + years) 3 1 := by
  obtain ⟨years, rfl⟩ := Nat.exists_eq_add_of_le' hpos
  have hfirst := date.year_mem.1
  -- The first year leads to 1 March, from where all others can be added at once.
  rw [yearsLater?_succ_left, nextYear?, if_pos h]
  cases hnext : ofCivil? (date.year + 1) 3 1 with
  | none =>
    have hyear := ofCivil?_eq_none_iff.1 hnext
    simp only [monthLength] at hyear
    rw [Option.bind_none, eq_comm, ofCivil?_eq_none_iff, monthLength]
    omega
  | some first =>
    obtain ⟨hyear, hmonth, hday⟩ := ofCivil?_eq_some_iff.1 hnext
    have hn : ¬first.IsLeapDay := by
      unfold IsLeapDay
      omega
    rw [Option.bind_some, yearsLater?_of_not_isLeapDay hn, addYears?_of_not_isLeapDay hn, hyear,
      hmonth, hday]
    congr 1
    push_cast
    omega

/-- Single years are added one after the other. -/
theorem iterate_addYears?_one (date : Date) (years : Nat) :
    (fun cursor : Option Date ↦ cursor.bind fun before ↦ before.addYears? 1)^[years] (some date) =
      date.yearsLater? years := by
  induction years with
  | zero => rfl
  | succ years ih =>
    rw [Function.iterate_succ_apply', ih, yearsLater?]
    exact Option.bind_congr fun before _ ↦ before.addYears?_one

private theorem exists_ofCivil? {year : Int} {month day : Nat}
    (hyear : firstYear ≤ year ∧ year ≤ lastYear) (hday : 1 ≤ day ∧ day ≤ monthLength year month) :
    ∃ date, ofCivil? year month day = some date ∧
      date.year = year ∧ date.month = month ∧ date.day = day :=
  ⟨⟨year, month, day, hyear, hday⟩, ofCivil?_eq_some_iff.2 ⟨rfl, rfl, rfl⟩, rfl, rfl, rfl⟩

/-- How years may be added in parts. To a day other than 29 February they may be added in two goes,
with the same outcome as their sum, which leads nowhere exactly if it leads past the last year. A 29
February to which years are added at once stays one where the year is leap and becomes 1 March where
it is not. Added to it one by one, any number of years leads to 1 March. -/
theorem addYears?_in_parts (date : Date) :
    (¬date.IsLeapDay → ∀ a b : Nat,
      ((date.addYears? a).bind fun later ↦ later.addYears? b) = date.addYears? (a + b) ∧
      (date.addYears? (a + b) = none ↔ lastYear < date.year + (a + b : Nat))) ∧
    (date.IsLeapDay → ∀ years : Nat, date.year + years ≤ lastYear →
      (∃ later, date.addYears? years = some later ∧ later.year = date.year + years ∧
        if isLeap (date.year + years) then later.month = 2 ∧ later.day = 29
        else later.month = 3 ∧ later.day = 1) ∧
      (1 ≤ years → ∃ later,
        (fun cursor : Option Date ↦ cursor.bind fun before ↦ before.addYears? 1)^[years]
          (some date) = some later ∧
        later.year = date.year + years ∧ later.month = 3 ∧ later.day = 1)) := by
  refine ⟨fun h a b ↦ ⟨addYears?_add h a b, addYears?_eq_none_iff h⟩, fun h years hlast ↦ ?_⟩
  have hfirst := date.year_mem.1
  have hyear : firstYear ≤ date.year + years ∧ date.year + years ≤ lastYear := by omega
  have hmarch : 1 ≤ 1 ∧ 1 ≤ monthLength (date.year + years) 3 := by simp [monthLength]
  constructor
  · rw [addYears?_of_isLeapDay h hlast]
    split
    · next hleap =>
      exact exists_ofCivil? hyear (by simp [monthLength, hleap])
    · exact exists_ofCivil? hyear hmarch
  · intro hpos
    rw [iterate_addYears?_one, yearsLater?_of_isLeapDay h hpos]
    exact exists_ofCivil? hyear hmarch

/-- Four years after 29 February 2024 there is one again, unless the years are added one by one;
from 28 February they may be added in parts. -/
theorem addYears?_in_parts_leap_day :
    (¬(civil 2024 2 28 (by decide)).IsLeapDay ∧
      (((civil 2024 2 28 (by decide)).addYears? 1).bind fun later ↦ later.addYears? 3) =
        (civil 2024 2 28 (by decide)).addYears? (1 + 3)) ∧
    (civil 2024 2 29 (by decide)).IsLeapDay ∧
    (civil 2024 2 29 (by decide)).year + (4 : Nat) ≤ lastYear ∧
    (∃ later, (civil 2024 2 29 (by decide)).addYears? 4 = some later ∧
      later.year = 2028 ∧ later.month = 2 ∧ later.day = 29) ∧
    ∃ later, (fun cursor : Option Date ↦ cursor.bind fun before ↦ before.addYears? 1)^[4]
        (some (civil 2024 2 29 (by decide))) = some later ∧
      later.year = 2028 ∧ later.month = 3 ∧ later.day = 1 := by
  have hother : ¬(civil 2024 2 28 (by decide)).IsLeapDay := by decide
  have hleap : (civil 2024 2 29 (by decide)).IsLeapDay := by decide
  have hlast : (civil 2024 2 29 (by decide)).year + (4 : Nat) ≤ lastYear := by decide
  obtain ⟨hatOnce, hstepwise⟩ :=
    (addYears?_in_parts (civil 2024 2 29 (by decide))).2 hleap 4 hlast
  exact ⟨⟨hother, ((addYears?_in_parts _).1 hother 1 3).1⟩, hleap, hlast, hatOnce,
    hstepwise (by decide)⟩

end Agenda.Calendar.Date
