import Agenda.Proofs.Recurrence.Occurrence
import Agenda.Proofs.Recurrence.Search

/-!
# Daily rules

The daily walk skips the whole intervals up to the current day and is past it with its first step.
What it skips does not come after the current day, so the search comes to one addition of the least
number of intervals past that day (`find?_daily`), and it is exact (`firstOf_daily`).
-/

namespace Agenda.Recurrence

open Calendar

/-- The whole intervals that a daily walk skips. -/
def skippedIntervals (now anchor : Date) (interval : Nat) : Int :=
  if anchor < now then (now.number - anchor.number) / interval else 0

/-- A daily walk starts one interval after the skipped ones. -/
theorem dailyStart?_eq (now anchor : Date) (interval : Nat) :
    dailyStart? now anchor interval =
      (anchor.addDays? (skippedIntervals now anchor interval * interval)).bind
        (fun start ↦ start.addDays? interval) := rfl

/-- The skipped intervals come to no more days than lie between the anchor and the current day, and
one more interval comes past them. -/
theorem skippedIntervals_spec (now anchor : Date) {interval : Nat} (hpos : 0 < interval) :
    0 ≤ skippedIntervals now anchor interval ∧
      skippedIntervals now anchor interval * interval ≤ max 0 (now.number - anchor.number) ∧
      now.number - anchor.number < (skippedIntervals now anchor interval + 1) * interval := by
  unfold skippedIntervals
  split
  · next hlt =>
    have hnumber := Date.lt_iff_number_lt.1 hlt
    have hle := Int.ediv_mul_le (now.number - anchor.number) (b := interval) (by omega)
    have hgt := Int.lt_ediv_add_one_mul_self (now.number - anchor.number) (b := interval) (by omega)
    refine ⟨?_, by omega, hgt⟩
    apply Int.ediv_nonneg <;> omega
  · next hle =>
    have hnumber : now.number ≤ anchor.number := Date.le_iff_number_le.1 (le_of_not_gt hle)
    omega

/-- The skipped intervals can be counted. -/
theorem exists_skippedIntervals_eq (now anchor : Date) {interval : Nat} (hpos : 0 < interval) :
    ∃ skipped : Nat, skippedIntervals now anchor interval = skipped :=
  Int.eq_ofNat_of_zero_le (skippedIntervals_spec now anchor hpos).1

private theorem mul_interval_nonneg (count interval : Nat) : (0 : Int) ≤ count * interval :=
  Int.mul_nonneg (Int.natCast_nonneg count) (Int.natCast_nonneg interval)

/-- One more interval is added to those before. -/
theorem addDays?_succ_mul (anchor : Date) (count interval : Nat) :
    anchor.addDays? ((count + 1 : Nat) * interval) =
      (anchor.addDays? (count * interval)).bind fun date ↦ date.addDays? interval := by
  rw [← Date.addDays?_add (mul_interval_nonneg count interval) (Int.natCast_nonneg interval),
    Int.natCast_succ, Int.add_mul, Int.one_mul]

/-- The skipped intervals end on a date of the calendar, no later than the later of both dates. -/
theorem exists_addDays?_skippedIntervals (now anchor : Date) {interval : Nat}
    (hpos : 0 < interval) :
    ∃ start : Date, anchor.addDays? (skippedIntervals now anchor interval * interval) = some start ∧
      start ≤ max anchor now := by
  obtain ⟨_, hle, _⟩ := skippedIntervals_spec now anchor hpos
  obtain ⟨skipped, hskipped⟩ := exists_skippedIntervals_eq now anchor hpos
  have hmul := mul_interval_nonneg skipped interval
  rw [hskipped] at hle ⊢
  have hmost : anchor.number + skipped * interval ≤ (max anchor now).number := by
    rcases le_total anchor now with h | h
    · rw [max_eq_right h]
      rw [Date.le_iff_number_le] at h
      omega
    · rw [max_eq_left h]
      rw [Date.le_iff_number_le] at h
      omega
  obtain ⟨start, hstart⟩ := Date.exists_number_eq (a := anchor) (b := max anchor now)
    (anchor.number + skipped * interval) (by omega) hmost
  refine ⟨start, Date.addDays?_eq_some_iff.2 hstart, ?_⟩
  rw [Date.le_iff_number_le, hstart]
  exact hmost

private theorem dailyStep_some (interval : Nat) (date : Date) :
    dailyStep interval (some date) = some ⟨some date, date.addDays? interval⟩ := rfl

private theorem dailyStep_none (interval : Nat) : dailyStep interval none = none := rfl

/-- The numbers of intervals, one at least, that lead from the anchor past the current day. -/
def intervalsPast (now anchor : Date) (interval : Nat) : Set Nat :=
  {count | 1 ≤ count ∧ now.number < anchor.number + count * interval}

/-- The least of these is one more than the skipped intervals. -/
theorem isLeast_intervalsPast {now anchor : Date} {interval skipped : Nat} (hpos : 0 < interval)
    (hskipped : skippedIntervals now anchor interval = skipped) :
    IsLeast (intervalsPast now anchor interval) (skipped + 1) := by
  obtain ⟨_, hle, hgt⟩ := skippedIntervals_spec now anchor hpos
  rw [hskipped] at hle hgt
  constructor
  · refine ⟨by omega, ?_⟩
    push_cast
    omega
  · rintro count ⟨hcount, hpast⟩
    by_contra hfew
    have hmul : count * interval ≤ skipped * interval := Nat.mul_le_mul_right interval (by omega)
    have hone : 1 * interval ≤ count * interval := Nat.mul_le_mul_right interval hcount
    omega

private theorem firstOf_addDays? {now anchor : Date} {interval count : Nat}
    (hcount : IsLeast (intervalsPast now anchor interval) count) :
    FirstOf {x | now < x ∧ (Rule.daily interval).Occurs anchor x}
      (anchor.addDays? (count * interval)) := by
  have hleast : ∀ x, now < x → (Rule.daily interval).Occurs anchor x →
      anchor.number + count * interval ≤ x.number := by
    rintro x hx ⟨more, hmore, hnumber⟩
    have hnow := Date.lt_iff_number_lt.1 hx
    have hle : count ≤ more := hcount.2 ⟨hmore, by omega⟩
    have hmul : count * interval ≤ more * interval := Nat.mul_le_mul_right interval hle
    omega
  cases hfirst : anchor.addDays? (count * interval) with
  | some first =>
    have hnumber := Date.addDays?_eq_some_iff.1 hfirst
    refine ⟨⟨?_, count, hcount.1.1, hnumber⟩, ?_⟩
    · rw [Date.lt_iff_number_lt, hnumber]
      exact hcount.1.2
    · intro x hx
      rw [Date.le_iff_number_le, hnumber]
      exact hleast x hx.1 hx.2
  | none =>
    -- A later date that fits would show that the counted one is in the calendar.
    apply Set.eq_empty_of_forall_notMem
    intro x hx
    have hmul := mul_interval_nonneg count interval
    obtain ⟨first, hnumber⟩ := Date.exists_number_eq (a := anchor) (b := x)
      (anchor.number + count * interval) (by omega) (hleast x hx.1 hx.2)
    rw [Date.addDays?_eq_some_iff.2 hnumber] at hfirst
    exact absurd hfirst (by simp)

/-- The search of a daily rule comes to one addition of the least number of intervals past the
current day. -/
theorem find?_daily {now anchor : Date} {interval count : Nat} (hpos : 0 < interval)
    (hcount : IsLeast (intervalsPast now anchor interval) count) :
    find? now anchor (.daily interval) = anchor.addDays? (count * interval) := by
  obtain ⟨skipped, hskipped⟩ := exists_skippedIntervals_eq now anchor hpos
  obtain rfl : count = skipped + 1 := hcount.unique (isLeast_intervalsPast hpos hskipped)
  have hstart : dailyStart? now anchor interval =
      anchor.addDays? ((skipped + 1 : Nat) * interval) := by
    rw [dailyStart?_eq, hskipped, addDays?_succ_mul]
  rw [find?, hstart]
  cases hfirst : anchor.addDays? ((skipped + 1 : Nat) * interval) with
  | none => exact firstAfter_of_ended (dailyStep_none interval) maxSteps
  | some first =>
    apply firstAfter_of_landing (dailyStep_some interval first)
    rw [Date.lt_iff_number_lt, Date.addDays?_eq_some_iff.1 hfirst]
    exact hcount.1.2

/-- The search of a daily rule gives the first date after the current day that is some intervals
after the anchor. -/
theorem firstOf_daily (now anchor : Date) {interval : Nat} (hpos : 0 < interval) :
    FirstOf {x | now < x ∧ (Rule.daily interval).Occurs anchor x}
      (find? now anchor (.daily interval)) := by
  obtain ⟨skipped, hskipped⟩ := exists_skippedIntervals_eq now anchor hpos
  have hcount := isLeast_intervalsPast hpos hskipped
  rw [find?_daily hpos hcount]
  exact firstOf_addDays? hcount

end Agenda.Recurrence
