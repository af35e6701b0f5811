import Mathlib.Logic.Relation
import Agenda.Proofs.Recurrence.Search

/-!
# Step by step

A search could go on from a day one step after the other, without a limit, until it meets a day that
it wants or the calendar ends (`Meets`). Where each step leads to a later day, that is the first
wanted day among those that the steps lead to (`Meets.firstOf`), so a search that is right comes to
the same (`Meets.iff_eq_of_firstOf`).
-/

namespace Agenda

open Calendar Recurrence

/-- Going on from a day step after step meets this as the first day that is wanted, or meets none
before the steps end. -/
inductive Meets (step : Date → Option Date) (wanted : Date → Prop) : Date → Option Date → Prop
  /-- There is no further step. -/
  | ends {day : Date} (h : step day = none) : Meets step wanted day none
  /-- The next step leads to a wanted day. -/
  | meets {day next : Date} (h : step day = some next) (hwanted : wanted next) :
      Meets step wanted day (some next)
  /-- The next step leads to a day that is not wanted, so the search goes on from there. -/
  | goesOn {day next : Date} {result : Option Date} (h : step day = some next)
      (hnot : ¬wanted next) (hrest : Meets step wanted next result) : Meets step wanted day result

/-- Some steps, one at least, lead from a day to another. -/
def LeadsTo (step : Date → Option Date) : Date → Date → Prop :=
  Relation.TransGen fun day next ↦ step day = some next

section Steps

variable {step : Date → Option Date} {wanted : Date → Prop} {day next x : Date}
  {result found : Option Date}

private theorem not_leadsTo_of_eq_none (h : step day = none) (x : Date) : ¬LeadsTo step day x := by
  intro hx
  obtain ⟨next, hnext, _⟩ := Relation.TransGen.head'_iff.1 hx
  rw [h] at hnext
  exact absurd hnext (by simp)

private theorem leadsTo_iff_of_eq_some (h : step day = some next) :
    LeadsTo step day x ↔ x = next ∨ LeadsTo step next x := by
  unfold LeadsTo
  rw [Relation.TransGen.head'_iff, ← Relation.reflTransGen_iff_eq_or_transGen]
  constructor
  · rintro ⟨other, hother, hx⟩
    rw [Option.some.inj (h.symm.trans hother)]
    exact hx
  · intro hx
    exact ⟨next, h, hx⟩

/-- Where the steps can be counted, they lead to what some number of them, one at least, comes
to. -/
theorem leadsTo_iff_of_count (count : Nat → Option Date) (hzero : count 0 = some day)
    (hsucc : ∀ steps, count (steps + 1) = (count steps).bind step) :
    LeadsTo step day x ↔ ∃ steps, 1 ≤ steps ∧ count steps = some x := by
  constructor
  · intro h
    induction h with
    | single h => exact ⟨1, le_rfl, by rw [hsucc, hzero, Option.bind_some, h]⟩
    | tail _ h ih =>
      obtain ⟨steps, hsteps, hbefore⟩ := ih
      exact ⟨steps + 1, by omega, by rw [hsucc, hbefore, Option.bind_some, h]⟩
  · rintro ⟨steps, hsteps, hx⟩
    induction steps, hsteps using Nat.le_induction generalizing x with
    | base =>
      rw [hsucc, hzero, Option.bind_some] at hx
      exact .single hx
    | succ steps hsteps ih =>
      rw [hsucc] at hx
      obtain ⟨before, hbefore, hnext⟩ := Option.bind_eq_some_iff.1 hx
      exact .tail (ih hbefore) hnext

namespace Meets

variable (hforward : ∀ day next, step day = some next → day < next)

include hforward

private theorem lt_of_leadsTo (h : LeadsTo step day x) : day < x := by
  induction h with
  | single h => exact hforward _ _ h
  | tail _ h ih => exact lt_trans ih (hforward _ _ h)

/-- What is met step by step is the first wanted day that the steps lead to. -/
theorem firstOf (h : Meets step wanted day result) :
    FirstOf {x | wanted x ∧ LeadsTo step day x} result := by
  induction h with
  | ends h =>
    apply Set.eq_empty_of_forall_notMem
    intro x hx
    exact not_leadsTo_of_eq_none h x hx.2
  | @meets day next h hwanted =>
    refine ⟨⟨hwanted, (leadsTo_iff_of_eq_some h).2 (.inl rfl)⟩, ?_⟩
    intro x hx
    rcases (leadsTo_iff_of_eq_some h).1 hx.2 with rfl | hlater
    · exact le_rfl
    · exact le_of_lt (lt_of_leadsTo hforward hlater)
  | @goesOn day next result h hnot hrest ih =>
    -- The next day is not wanted, so the wanted days are those that the steps lead to from it.
    have hsame : {x | wanted x ∧ LeadsTo step day x} = {x | wanted x ∧ LeadsTo step next x} := by
      ext x
      apply and_congr_right
      intro hx
      rw [leadsTo_iff_of_eq_some h]
      apply or_iff_right
      rintro rfl
      exact hnot hx
    rw [hsame]
    exact ih

/-- Step by step the calendar ends, if no wanted day is met before. -/
theorem exists_result (wanted : Date → Prop) (day : Date) :
    ∃ result, Meets step wanted day result := by
  classical
  obtain ⟨left, hleft⟩ : ∃ left : Nat, daysBeforeYear (lastYear + 1) ≤ day.number + left :=
    ⟨(daysBeforeYear (lastYear + 1) - day.number).toNat, by omega⟩
  -- Each step leaves fewer days before the end of the calendar.
  induction left generalizing day with
  | zero =>
    have hday := day.number_mem_year
    have hlast := daysBeforeYear_le (Int.add_le_add_right day.year_mem.2 1)
    omega
  | succ left ih =>
    cases hstep : step day with
    | none => exact ⟨none, .ends hstep⟩
    | some next =>
      have hlt := Date.lt_iff_number_lt.1 (hforward day next hstep)
      by_cases hwanted : wanted next
      · exact ⟨some next, .meets hstep hwanted⟩
      · obtain ⟨result, hrest⟩ := ih next (by omega)
        exact ⟨result, .goesOn hstep hwanted hrest⟩

/-- A search that is right finds what is met step by step. -/
theorem iff_eq_of_firstOf (h : FirstOf {x | wanted x ∧ LeadsTo step day x} found) :
    Meets step wanted day result ↔ found = result := by
  constructor
  · intro hmeets
    exact h.unique (hmeets.firstOf hforward)
  · rintro rfl
    obtain ⟨result, hmeets⟩ := exists_result hforward wanted day
    rw [h.unique (hmeets.firstOf hforward)]
    exact hmeets

end Meets

end Steps

end Agenda
