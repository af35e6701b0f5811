import Mathlib.Order.Bounds.Basic
import Agenda.Recurrence
import Agenda.Proofs.Calendar.DayNumber

/-!
# Searches through the calendar

A search for the first date of a set is right if it gives the least one and gives nothing only if
there is none (`FirstOf`). A walk that scans the calendar from a cursor on is right as far as its
steps reach; where the dates it looks for recur within that reach, it is right without a limit
(`IsScan.firstOf_search`).
-/

namespace Agenda.Recurrence

open Calendar

/-- What a search for the first date of a set should give: the least one, nothing if there is
none. -/
def FirstOf (s : Set Date) : Option Date → Prop
  | some date => IsLeast s date
  | none => s = ∅

namespace FirstOf

variable {s : Set Date} {result : Option Date}

/-- A search that is right gives a date exactly if that is the least one. -/
theorem eq_some_iff (h : FirstOf s result) {date : Date} : result = some date ↔ IsLeast s date := by
  constructor
  · rintro rfl
    exact h
  · intro hleast
    cases result with
    | none =>
      rw [show s = ∅ from h] at hleast
      exact absurd hleast.1 (Set.notMem_empty date)
    | some found => rw [IsLeast.unique h hleast]

/-- A search that is right gives nothing exactly if there is nothing. -/
theorem eq_none_iff (h : FirstOf s result) : result = none ↔ s = ∅ := by
  constructor
  · rintro rfl
    exact h
  · intro hempty
    cases result with
    | none => rfl
    | some found =>
      have hleast : IsLeast s found := h
      rw [hempty] at hleast
      exact absurd hleast.1 (Set.notMem_empty found)

/-- Two searches of one set that are right give the same. -/
theorem unique {other : Option Date} (h : FirstOf s result) (hother : FirstOf s other) :
    result = other := by
  cases other with
  | none => exact h.eq_none_iff.2 hother
  | some date => exact h.eq_some_iff.2 hother

/-- A search of some dates of a set that come no later than any of its dates is one of the set. -/
theorem of_subset (h : FirstOf s result) {t : Set Date} (hst : s ⊆ t)
    (hearlier : ∀ x ∈ t, ∃ y ∈ s, y ≤ x) : FirstOf t result := by
  cases result with
  | none =>
    refine Set.eq_empty_of_forall_notMem fun x hx ↦ ?_
    obtain ⟨y, hy, _⟩ := hearlier x hx
    rw [show s = ∅ from h] at hy
    exact Set.notMem_empty y hy
  | some date =>
    have hleast : IsLeast s date := h
    refine ⟨hst hleast.1, fun x hx ↦ ?_⟩
    obtain ⟨y, hy, hyx⟩ := hearlier x hx
    exact le_trans (hleast.2 hy) hyx

end FirstOf

/-! ### Single steps -/

section Steps

variable {σ : Type} {step : σ → Option (Step σ)} {now : Date} {state : σ}

/-- A walk that has ended finds nothing. -/
theorem firstAfter_of_ended (h : step state = none) (steps : Nat) :
    firstAfter step now steps state = none := by
  cases steps with
  | zero => rfl
  | succ steps => simp only [firstAfter, h]

/-- A landing after the current day ends the search. -/
theorem firstAfter_of_landing {landing : Date} {next : σ}
    (h : step state = some ⟨some landing, next⟩) (hnow : now < landing) (steps : Nat) :
    firstAfter step now (steps + 1) state = some landing := by
  simp only [firstAfter, h, if_pos hnow]

end Steps

/-! ### Scans -/

/-- A cursor moves on by at least one place and past no date that fits; it is lost only where no
such date is left. -/
structure MovesOn (fits : Date → Prop) (place : Date → Int) (cursor : Date) (next : Option Date) :
    Prop where
  forward : ∀ later, next = some later → cursor ≤ later ∧ place cursor < place later
  keeps : ∀ x, cursor ≤ x → fits x → ∃ later, next = some later ∧ later ≤ x

/-- A scan for the dates that fit: a step lands on the first such date from its cursor on, or moves
the cursor on without a landing. -/
structure IsScan (fits : Date → Prop) (place : Date → Int)
    (step : Option Date → Option (Step (Option Date))) : Prop where
  place_mono : ∀ {a b : Date}, a ≤ b → place a ≤ place b
  step_none : step none = none
  step_some : ∀ cursor,
    (∃ date next, step (some cursor) = some ⟨some date, next⟩ ∧
      IsLeast {x | cursor ≤ x ∧ fits x} date) ∨
    ∃ next, step (some cursor) = some ⟨none, next⟩ ∧ MovesOn fits place cursor next

namespace IsScan

variable {fits : Date → Prop} {place : Date → Int}
  {step : Option Date → Option (Step (Option Date))} {now cursor date : Date}

private theorem isLeast_of_firstAfter (h : IsScan fits place step) {steps : Nat}
    (hnow : now < cursor) (hfound : firstAfter step now steps (some cursor) = some date) :
    IsLeast {x | cursor ≤ x ∧ fits x} date := by
  induction steps generalizing cursor with
  | zero => exact absurd hfound (by simp [firstAfter])
  | succ steps ih =>
    rcases h.step_some cursor with ⟨landing, next, hstep, hleast⟩ | ⟨next, hstep, hmoves⟩
    · rw [firstAfter_of_landing hstep (lt_of_lt_of_le hnow hleast.1.1)] at hfound
      rw [← Option.some.inj hfound]
      exact hleast
    · simp only [firstAfter, hstep] at hfound
      cases next with
      | none =>
        rw [firstAfter_of_ended h.step_none] at hfound
        exact absurd hfound (by simp)
      | some later =>
        -- No date that fits was passed, so the least one is the same from the next cursor on.
        obtain ⟨hle, _⟩ := hmoves.forward later rfl
        have hleast := ih (lt_of_lt_of_le hnow hle) hfound
        refine ⟨⟨le_trans hle hleast.1.1, hleast.1.2⟩, fun x hx ↦ hleast.2 ⟨?_, hx.2⟩⟩
        obtain ⟨_, hlater, hpast⟩ := hmoves.keeps x hx.1 hx.2
        rw [Option.some.inj hlater]
        exact hpast

private theorem le_place_of_firstAfter_eq_none (h : IsScan fits place step) {steps : Nat}
    (hnow : now < cursor) (hnone : firstAfter step now steps (some cursor) = none) {x : Date}
    (hx : cursor ≤ x) (hfits : fits x) : place cursor + steps ≤ place x := by
  induction steps generalizing cursor with
  | zero =>
    have := h.place_mono hx
    omega
  | succ steps ih =>
    rcases h.step_some cursor with ⟨landing, next, hstep, hleast⟩ | ⟨next, hstep, hmoves⟩
    · rw [firstAfter_of_landing hstep (lt_of_lt_of_le hnow hleast.1.1)] at hnone
      exact absurd hnone (by simp)
    · simp only [firstAfter, hstep] at hnone
      -- Without a landing the cursor has moved on by one place at least.
      obtain ⟨later, rfl, hpast⟩ := hmoves.keeps x hx hfits
      obtain ⟨hle, hplace⟩ := hmoves.forward later rfl
      have := ih (lt_of_lt_of_le hnow hle) hnone hpast
      push_cast
      omega

private theorem scanStart?_eq_some {now anchor start : Date}
    (h : scanStart? now anchor = some start) (x : Date) : start ≤ x ↔ now < x ∧ anchor < x := by
  rw [← Date.lt_iff_next_le h]
  unfold Date.latest
  split
  · next hle => exact ⟨fun hx ↦ ⟨hx, lt_of_le_of_lt hle hx⟩, fun hx ↦ hx.1⟩
  · next hle => exact ⟨fun hx ↦ ⟨lt_trans (lt_of_not_ge hle) hx, hx⟩, fun hx ↦ hx.2⟩

private theorem not_lt_of_scanStart?_eq_none {now anchor : Date} (h : scanStart? now anchor = none)
    (x : Date) : ¬(now < x ∧ anchor < x) := by
  have hle := Date.next?_eq_none_iff.1 h x
  unfold Date.latest at hle
  split at hle
  · exact fun hx ↦ not_lt_of_ge hle hx.1
  · exact fun hx ↦ not_lt_of_ge hle hx.2

/-- A scan for dates that recur within the reach of its steps finds the first one after both
dates. -/
theorem firstOf_search (h : IsScan fits place step)
    (hrecur : ∀ cursor x, cursor ≤ x → fits x →
      ∃ y, cursor ≤ y ∧ fits y ∧ place y < place cursor + maxSteps) (now anchor : Date) :
    FirstOf {x | now < x ∧ anchor < x ∧ fits x}
      (firstAfter step now maxSteps (scanStart? now anchor)) := by
  cases hstart : scanStart? now anchor with
  | none =>
    rw [firstAfter_of_ended h.step_none]
    exact Set.eq_empty_of_forall_notMem fun x hx ↦
      not_lt_of_scanStart?_eq_none hstart x ⟨hx.1, hx.2.1⟩
  | some start =>
    have hset : {x | now < x ∧ anchor < x ∧ fits x} = {x | start ≤ x ∧ fits x} := by
      ext x
      rw [Set.mem_ofPred_eq, Set.mem_ofPred_eq, scanStart?_eq_some hstart, and_assoc]
    have hnow : now < start := ((scanStart?_eq_some hstart start).1 le_rfl).1
    rw [hset]
    cases hfound : firstAfter step now maxSteps (some start) with
    | some date => exact h.isLeast_of_firstAfter hnow hfound
    | none =>
      -- A date that fits would recur within the reach of the steps, and be found.
      refine Set.eq_empty_of_forall_notMem fun x hx ↦ ?_
      obtain ⟨y, hy, hfits, hplace⟩ := hrecur start x hx.1 hx.2
      have := h.le_place_of_firstAfter_eq_none hnow hfound hy hfits
      omega

end IsScan

end Agenda.Recurrence
