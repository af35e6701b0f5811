import Agenda.Proofs.Recurrence.Occurrence
import Agenda.Proofs.Recurrence.Search

/-!
# Yearly rules

The yearly walk lands on the outcomes of single years from the anchor, leaving out those that end
before the year of the current day. The second of its steps is past that year, so the search is
exact (`firstOf_yearly`).
-/

namespace Agenda.Recurrence

open Calendar

private theorem yearlyStep_eq (anchor : Date) {k : Nat} (hk : 1 ≤ k) :
    yearlyStep anchor k = some ⟨anchor.yearsLater? k, k + 1⟩ := by
  obtain ⟨years, rfl⟩ := Nat.exists_eq_add_of_le' hk
  rw [Date.yearsLater?_succ]
  rfl

private theorem lt_of_yearsLater?_lt {anchor a b : Date} {j k : Nat}
    (ha : anchor.yearsLater? j = some a) (hb : anchor.yearsLater? k = some b) (h : j < k) :
    a < b := by
  have hya := Date.year_of_yearsLater? ha
  have hyb := Date.year_of_yearsLater? hb
  exact Date.lt_of_year_lt (by omega)

private theorem firstOf_yearlyStep (now anchor : Date) (steps : Nat) {k : Nat} (hk : 1 ≤ k) :
    FirstOf {x | now < x ∧ ∃ j, k ≤ j ∧ j < k + steps ∧ anchor.yearsLater? j = some x}
      (firstAfter (yearlyStep anchor) now steps k) := by
  induction steps generalizing k with
  | zero =>
    refine Set.eq_empty_of_forall_notMem ?_
    rintro x ⟨_, j, hle, hlt, _⟩
    omega
  | succ steps ih =>
    have hstep := yearlyStep_eq anchor hk
    -- Where step `k` does not end the search, its landing is not among the dates searched for.
    have hrest : (∀ x, anchor.yearsLater? k = some x → ¬now < x) →
        {x | now < x ∧ ∃ j, k ≤ j ∧ j < k + (steps + 1) ∧ anchor.yearsLater? j = some x} =
          {x | now < x ∧ ∃ j, k + 1 ≤ j ∧ j < k + 1 + steps ∧ anchor.yearsLater? j = some x} := by
      intro hskip
      ext x
      constructor
      · rintro ⟨hx, j, hle, hlt, hj⟩
        have hne : j ≠ k := fun h ↦ hskip x (by rw [← h]; exact hj) hx
        exact ⟨hx, j, by omega, by omega, hj⟩
      · rintro ⟨hx, j, hle, hlt, hj⟩
        exact ⟨hx, j, by omega, by omega, hj⟩
    cases hlanding : anchor.yearsLater? k with
    | none =>
      rw [hlanding] at hstep
      simp only [firstAfter, hstep]
      rw [hrest fun x hx ↦ absurd (hlanding.symm.trans hx) (by simp)]
      exact ih (by omega)
    | some date =>
      rw [hlanding] at hstep
      by_cases hnow : now < date
      · rw [firstAfter_of_landing hstep hnow]
        refine ⟨⟨hnow, k, le_rfl, by omega, hlanding⟩, ?_⟩
        rintro x ⟨_, j, hle, _, hj⟩
        rcases Nat.lt_or_eq_of_le hle with hlt | rfl
        · exact le_of_lt (lt_of_yearsLater?_lt hlanding hj hlt)
        · exact le_of_eq (Option.some.inj (hlanding.symm.trans hj))
      · simp only [firstAfter, hstep, if_neg hnow]
        rw [hrest fun x hx ↦ by rw [← Option.some.inj (hlanding.symm.trans hx)]; exact hnow]
        exact ih (by omega)

/-- The search of a yearly rule gives the first date after the current day that is some single years
after the anchor. -/
theorem firstOf_yearly (now anchor : Date) :
    FirstOf {x | now < x ∧ Rule.yearly.Occurs anchor x} (find? now anchor .yearly) := by
  have hstart : 1 ≤ yearlyStart now anchor ∧
      now.year ≤ anchor.year + yearlyStart now anchor := by
    unfold yearlyStart
    omega
  refine (firstOf_yearlyStep now anchor maxSteps hstart.1).of_subset ?_ ?_
  · rintro x ⟨hx, j, hle, _, hj⟩
    exact ⟨hx, j, by omega, hj⟩
  · rintro x ⟨hx, j, hj, hxj⟩
    have hyear := Date.year_of_yearsLater? hxj
    have hnow := Date.year_le_of_le (le_of_lt hx)
    have hle : yearlyStart now anchor ≤ j := by
      unfold yearlyStart
      omega
    by_cases hnear : j ≤ yearlyStart now anchor + 1
    · refine ⟨x, ⟨hx, j, hle, ?_, hxj⟩, le_rfl⟩
      unfold maxSteps
      omega
    · -- Farther on, the second step has met an earlier date already.
      obtain ⟨y, hy⟩ := Date.exists_yearsLater?_of_le hxj
        (show yearlyStart now anchor + 1 ≤ j by omega)
      have hyy := Date.year_of_yearsLater? hy
      refine ⟨y, ⟨Date.lt_of_year_lt (by omega), _, by omega, ?_, hy⟩,
        le_of_lt (lt_of_yearsLater?_lt hy hxj (by omega))⟩
      unfold maxSteps
      omega

end Agenda.Recurrence
