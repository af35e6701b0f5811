import Mathlib.Data.Set.Card
import Agenda.Proofs.Calendar.DateText
import Agenda.Proofs.Schedule.Basic

/-!
# Completing a task over and over

Each completion counts from the date of the one before, read back from its text. The dates are
nevertheless the occurrences counted from the first stored date, in order and without a gap: from
an occurrence on, the rule comes up as before, and it always comes up again. A chain that has moved
at all ends only on a date whose text cannot be read back (`completionChain_enumerates`).
-/

namespace Agenda

open Calendar

/-! ### Enumerations of a set -/

/-- The dates are the first ones of a set, in order. -/
def Enumerates (s : Set Date) : List Date → Prop
  | [] => True
  | date :: dates => IsLeast s date ∧ Enumerates {x | x ∈ s ∧ date < x} dates

namespace Enumerates

variable {s : Set Date} {dates : List Date}

private theorem mem (h : Enumerates s dates) {date : Date} (hdate : date ∈ dates) : date ∈ s := by
  induction dates generalizing s with
  | nil => exact absurd hdate List.not_mem_nil
  | cons first dates ih =>
    rcases List.mem_cons.1 hdate with rfl | hdate
    · exact h.1.1
    · exact (ih h.2 hdate).1

private theorem pairwise (h : Enumerates s dates) : dates.Pairwise (· < ·) := by
  induction dates generalizing s with
  | nil => exact List.Pairwise.nil
  | cons first dates ih =>
    exact List.pairwise_cons.2 ⟨fun date hdate ↦ (h.2.mem hdate).2, ih h.2⟩

private theorem encard_before (h : Enumerates s dates) {k : Nat} {date : Date}
    (hdate : dates[k]? = some date) : {x | x ∈ s ∧ x < date}.encard = k := by
  induction dates generalizing s k with
  | nil => exact absurd hdate (by simp)
  | cons first dates ih =>
    cases k with
    | zero =>
      obtain rfl : first = date := by simpa using hdate
      have hempty : {x | x ∈ s ∧ x < first} = ∅ :=
        Set.eq_empty_of_forall_notMem fun x hx ↦ not_lt_of_ge (h.1.2 hx.1) hx.2
      rw [hempty, Set.encard_empty, Nat.cast_zero]
    | succ k =>
      rw [List.getElem?_cons_succ] at hdate
      have hlt : first < date := (h.2.mem (List.mem_of_getElem? hdate)).2
      -- Besides the first date, those before this one are those after the first.
      have hset : {x | x ∈ s ∧ x < date} =
          insert first {x | x ∈ {x | x ∈ s ∧ first < x} ∧ x < date} := by
        ext x
        constructor
        · rintro ⟨hx, hxdate⟩
          rcases lt_or_eq_of_le (h.1.2 hx) with hfirst | rfl
          · exact .inr ⟨⟨hx, hfirst⟩, hxdate⟩
          · exact .inl rfl
        · rintro (rfl | ⟨⟨hx, _⟩, hxdate⟩)
          · exact ⟨h.1.1, hlt⟩
          · exact ⟨hx, hxdate⟩
      rw [hset, Set.encard_insert_of_notMem fun hfirst ↦ lt_irrefl first hfirst.1.2, ih h.2 hdate]
      push_cast
      rfl

end Enumerates

/-! ### Chains of completions -/

/-- How a chain of completions ends that has moved a task to the given dates: it has run for the
whole count, or there was no occurrence to start with, or the last date has no text that can be
read. -/
def EndsAfter (rule : Rule) (upcoming : Set Date) (count : Nat) (dates : List Date)
    (rest : List ChainLink) : Prop :=
  rest = [] ∧ dates.length = count ∨
  ∃ e, rest = [.ended (.error e)] ∧
    (dates = [] → e = .unsatisfiableRule rule.text ∧ upcoming = ∅) ∧
    ∀ last, dates.getLast? = some last → e = .invalidDate last.text ∧ ¬last.HasFourDigitYear

private theorem EndsAfter.cons {rule : Rule} {s upcoming : Set Date} {count : Nat}
    {dates : List Date} {rest : List ChainLink} (h : EndsAfter rule s count dates rest)
    (hs : s.Nonempty) (date : Date) : EndsAfter rule upcoming (count + 1) (date :: dates) rest := by
  rcases h with ⟨hrest, hlength⟩ | ⟨e, hrest, hnone, hlast⟩
  · exact .inl ⟨hrest, by rw [List.length_cons, hlength]⟩
  · refine .inr ⟨e, hrest, fun h ↦ absurd h (List.cons_ne_nil date dates), ?_⟩
    cases dates with
    | nil => exact absurd (hnone rfl).2 hs.ne_empty
    | cons second dates =>
      rw [List.getLast?_cons_cons]
      exact hlast

variable {now anchor date : Date} {stored repeatText : String} {rule : Rule}

private theorem completionChain_of_ofText?_eq_none (hrule : Rule.parse repeatText = .ok rule)
    (hstored : Date.ofText? stored = none) (count : Nat) :
    completionChain now repeatText count stored = [] ∧ count = 0 ∨
      completionChain now repeatText count stored = [.ended (.error (.invalidDate stored))] := by
  cases count with
  | zero => exact .inl ⟨rfl, rfl⟩
  | succ count =>
    right
    simp only [completionChain, complete_of_ofText?_eq_none hrule hstored]

private theorem completionChain_of_nextDate_eq_ok (hrule : Rule.parse repeatText = .ok rule)
    (hstored : Date.ofText? stored = some anchor) (hnext : nextDate now anchor rule = .ok date)
    (count : Nat) :
    completionChain now repeatText (count + 1) stored =
      .moved date.text :: completionChain now repeatText count date.text := by
  simp only [completionChain, complete_of_ofText?_eq_some hrule hstored, hnext, Except.map]

private theorem completionChain_of_nextDate_eq_error {e : Error}
    (hrule : Rule.parse repeatText = .ok rule) (hstored : Date.ofText? stored = some anchor)
    (hnext : nextDate now anchor rule = .error e) (count : Nat) :
    completionChain now repeatText (count + 1) stored = [.ended (.error e)] := by
  simp only [completionChain, complete_of_ofText?_eq_some hrule hstored, hnext, Except.map]

private theorem Rule.upcoming_after (hrule : rule ≠ .daily 0)
    (hleast : IsLeast (rule.Upcoming now anchor) date) :
    {x | x ∈ rule.Upcoming now anchor ∧ date < x} = rule.Upcoming now date := by
  obtain ⟨⟨hnow, hoccurs, _⟩, _⟩ := hleast
  ext x
  constructor
  · rintro ⟨⟨hx, hxoccurs, hevaluated⟩, hlt⟩
    exact ⟨hx, (Rule.occurs_iff_of_occurs hoccurs hlt).2 hxoccurs, hevaluated⟩
  · rintro ⟨hx, hxoccurs, hevaluated⟩
    have hlt := Rule.lt_of_occurs hrule hxoccurs
    exact ⟨⟨hx, (Rule.occurs_iff_of_occurs hoccurs hlt).1 hxoccurs, hevaluated⟩, hlt⟩

private theorem Rule.upcoming_nonempty_of_hasFourDigitYear (hrule : rule.WellFormed)
    (h : date ∈ rule.Upcoming now anchor) (hyear : date.HasFourDigitYear) :
    (rule.Upcoming now date).Nonempty := by
  have hbound : date.year + 8 < lastYear := by
    unfold Date.HasFourDigitYear at hyear
    unfold lastYear
    omega
  exact (Rule.upcoming_nonempty hrule h.2.1 hbound).mono (Rule.upcoming_subset (le_of_lt h.1))

/-- A chain moves a task through the upcoming dates in order. It ends early only at the start, or
after a date whose text cannot be read. -/
theorem completionChain_enumerates (now : Date) (hrule : Rule.parse repeatText = .ok rule)
    (hstored : Date.ofText? stored = some anchor) (count : Nat) :
    ∃ dates rest,
      completionChain now repeatText count stored =
        dates.map (fun date ↦ .moved date.text) ++ rest ∧
      Enumerates (rule.Upcoming now anchor) dates ∧
      EndsAfter rule (rule.Upcoming now anchor) count dates rest := by
  have hzero := (Rule.wellFormed_of_parse hrule).ne_daily_zero
  induction count generalizing stored anchor with
  | zero => exact ⟨[], [], rfl, trivial, .inl ⟨rfl, rfl⟩⟩
  | succ count ih =>
    cases hnext : nextDate now anchor rule with
    | error e =>
      refine ⟨[], _, completionChain_of_nextDate_eq_error hrule hstored hnext count, trivial, ?_⟩
      exact .inr ⟨e, rfl, fun _ ↦ (nextDate_eq_error_iff hzero).1 hnext, fun _ h ↦ by simp at h⟩
    | ok date =>
      have hleast := (nextDate_eq_ok_iff hzero).1 hnext
      rw [completionChain_of_nextDate_eq_ok hrule hstored hnext]
      by_cases hyear : date.HasFourDigitYear
      · -- The date is read back, so the chain goes on as one that starts from it.
        obtain ⟨dates, rest, hchain, henum, hends⟩ := ih (Date.ofText?_text hyear)
        refine ⟨date :: dates, rest, by rw [hchain]; rfl, ⟨hleast, ?_⟩, ?_⟩
        · rw [Rule.upcoming_after hzero hleast]
          exact henum
        · have hmore := Rule.upcoming_nonempty_of_hasFourDigitYear (Rule.wellFormed_of_parse hrule)
            hleast.1 hyear
          exact hends.cons hmore date
      · have hunread := Date.ofText?_text_eq_none hyear
        refine ⟨[date], completionChain now repeatText count date.text, rfl, ⟨hleast, trivial⟩, ?_⟩
        rcases completionChain_of_ofText?_eq_none hrule hunread count with ⟨hchain, rfl⟩ | hchain
        · exact .inl ⟨hchain, rfl⟩
        · refine .inr ⟨_, hchain, fun h ↦ absurd h (List.cons_ne_nil date []), fun last hlast ↦ ?_⟩
          obtain rfl : date = last := by simpa using hlast
          exact ⟨rfl, hyear⟩

/-- Completing a task over and over loses and repeats no occurrence. The dates it moves to ascend,
all after the current day, and before each of them lie as many occurrences after the current day as
it has been moved to before. Once it has moved, only a date whose year has no four digits stops
it. -/
theorem completionChain_exact (now : Date) {stored repeatText : String} {first : Date} {rule : Rule}
    (hstored : Date.ofText? stored = some first) (hrule : Rule.parse repeatText = .ok rule)
    (count : Nat) :
    ∃ dates rest,
      completionChain now repeatText count stored =
        dates.map (fun date ↦ .moved date.text) ++ rest ∧
      dates.Pairwise (· < ·) ∧ (∀ date ∈ dates, now < date) ∧
      (∀ (k : Nat) date, dates[k]? = some date →
        rule.Occurs first date ∧ {x | now < x ∧ rule.Occurs first x ∧ x < date}.encard = k) ∧
      EndsAfter rule (rule.Upcoming now first) count dates rest := by
  obtain ⟨dates, rest, hchain, henum, hends⟩ := completionChain_enumerates now hrule hstored count
  refine ⟨dates, rest, hchain, henum.pairwise, fun date hdate ↦ (henum.mem hdate).1, ?_, hends⟩
  intro k date hdate
  obtain ⟨_, hoccurs, hevaluated⟩ := henum.mem (List.mem_of_getElem? hdate)
  have hset : {x | now < x ∧ rule.Occurs first x ∧ x < date} =
      {x | x ∈ rule.Upcoming now first ∧ x < date} := by
    ext x
    constructor
    · rintro ⟨hx, hxoccurs, hlt⟩
      exact ⟨⟨hx, hxoccurs, Rule.isEvaluated_of_le hevaluated (le_of_lt hlt)⟩, hlt⟩
    · rintro ⟨⟨hx, hxoccurs, _⟩, hlt⟩
      exact ⟨hx, hxoccurs, hlt⟩
  rw [hset]
  exact ⟨hoccurs, henum.encard_before hdate⟩

/-- A yearly task of 29 February 2024 goes through the first of March of the years that follow. -/
theorem completionChain_exact_leap_day :
    Date.ofText? "20240229" = some (.civil 2024 2 29 (by decide)) ∧ Rule.parse "y" = .ok .yearly ∧
    ∃ dates rest,
      [.moved "20250301", .moved "20260301", .moved "20270301"] =
        dates.map (fun date ↦ ChainLink.moved date.text) ++ rest ∧
      dates.Pairwise (· < ·) ∧ (∀ date ∈ dates, Date.civil 2024 3 5 (by decide) < date) ∧
      (∀ (k : Nat) date, dates[k]? = some date →
        Rule.yearly.Occurs (.civil 2024 2 29 (by decide)) date ∧
        {x | Date.civil 2024 3 5 (by decide) < x ∧
          Rule.yearly.Occurs (.civil 2024 2 29 (by decide)) x ∧ x < date}.encard = k) ∧
      EndsAfter .yearly
        (Rule.yearly.Upcoming (.civil 2024 3 5 (by decide)) (.civil 2024 2 29 (by decide))) 3
        dates rest := by
  have hstored : Date.ofText? "20240229" = some (.civil 2024 2 29 (by decide)) := by decide
  have hrule : Rule.parse "y" = .ok .yearly := by decide
  have hchain : completionChain (.civil 2024 3 5 (by decide)) "y" 3 "20240229" =
      [.moved "20250301", .moved "20260301", .moved "20270301"] := by
    rfl
  have h := completionChain_exact (.civil 2024 3 5 (by decide)) hstored hrule 3
  rw [hchain] at h
  exact ⟨hstored, hrule, h⟩

end Agenda
