import Agenda.Proofs.Recurrence.Wait
import Agenda.Proofs.Schedule.Basic

/-!
# What is accepted can be completed

One reader serves creation, change and completion, so a task that was accepted with a repeat rule
has one that is read again. Completing it then fails for one reason only: the rule fits no date,
which creation and change notice only where they have to move the date themselves.
-/

namespace Agenda

open Calendar

variable {now later date : Date} {stored repeatText text : String} {rule : Rule}

/-- A rule that fits no date is refused on completion. -/
theorem complete_of_fitsNoDate (hrule : Rule.parse repeatText = .ok rule)
    (hstored : Date.ofText? stored = some date) (h : rule.FitsNoDate) :
    complete now stored repeatText = .error (.unsatisfiableRule rule.text) := by
  rw [complete_of_ofText?_eq_some hrule hstored, nextDate_of_fitsNoDate h]
  rfl

/-- Any other task with a rule and a readable date can be completed. -/
theorem exists_complete_of_not_fitsNoDate (hnow : now.HasFourDigitYear)
    (hrule : Rule.parse repeatText = .ok rule) (hstored : Date.ofText? stored = some date)
    (h : ¬rule.FitsNoDate) : ∃ next, complete now stored repeatText = .ok (.reschedule next) := by
  have hdate := (Date.ofText?_eq_some_iff.1 hstored).2
  obtain ⟨next, hnext, _⟩ := exists_nextDate_within (Rule.wellFormed_of_parse hrule) h
    (year_add_lt_lastYear hnow) (year_add_lt_lastYear hdate)
  exact ⟨next, complete_eq_reschedule_iff.2 ⟨rule, date, hrule, hstored, hnext⟩⟩

/-- A task that was created or changed under a readable date and a repeat rule can be completed on
every day of four digits, unless the rule is for given months and each of its days lies past the end
of all of them. Such a rule is then refused as one that cannot be satisfied. -/
theorem complete_of_normalizeDate (hlater : later.HasFourDigitYear) (hrepeat : repeatText ≠ "")
    (h : normalizeDate now stored repeatText = .ok text) (htext : (Date.ofText? text).isSome) :
    ∃ rule, Rule.parse repeatText = .ok rule ∧
      (¬rule.FitsNoDate → ∃ next, complete later text repeatText = .ok (.reschedule next)) ∧
      (rule.FitsNoDate →
        complete later text repeatText = .error (.unsatisfiableRule rule.text)) := by
  obtain ⟨rule, hrule⟩ := (parse_of_normalizeDate h).resolve_left hrepeat
  obtain ⟨date, hdate⟩ := Option.isSome_iff_exists.1 htext
  exact ⟨rule, hrule, exists_complete_of_not_fitsNoDate hlater hrule hdate,
    complete_of_fitsNoDate hrule hdate⟩

/-- A task of every 29 February can be completed in 1896, eight years before the next one. -/
theorem complete_of_normalizeDate_leap_day :
    (Date.civil 1896 2 29 (by decide)).HasFourDigitYear ∧ "m 29 2" ≠ "" ∧
    normalizeDate (.civil 1896 2 1 (by decide)) "18960229" "m 29 2" = .ok "18960229" ∧
    (Date.ofText? "18960229").isSome ∧
    ∃ rule, Rule.parse "m 29 2" = .ok rule ∧
      (¬rule.FitsNoDate → ∃ next,
        complete (.civil 1896 2 29 (by decide)) "18960229" "m 29 2" = .ok (.reschedule next)) ∧
      (rule.FitsNoDate →
        complete (.civil 1896 2 29 (by decide)) "18960229" "m 29 2" =
          .error (.unsatisfiableRule rule.text)) := by
  have hlater : (Date.civil 1896 2 29 (by decide)).HasFourDigitYear := by decide
  have hrepeat : "m 29 2" ≠ "" := by decide
  have haccepted :
      normalizeDate (.civil 1896 2 1 (by decide)) "18960229" "m 29 2" = .ok "18960229" := by decide
  have hread : (Date.ofText? "18960229").isSome := by decide
  exact ⟨hlater, hrepeat, haccepted, hread,
    complete_of_normalizeDate hlater hrepeat haccepted hread⟩

/-- A task of every 31 February is accepted under a date to come and cannot be completed. -/
theorem not_complete_of_normalizeDate :
    (Date.civil 2024 1 26 (by decide)).HasFourDigitYear ∧ "m 31 2" ≠ "" ∧
    normalizeDate (.civil 2024 1 26 (by decide)) "20240301" "m 31 2" = .ok "20240301" ∧
    (Date.ofText? "20240301").isSome ∧
    complete (.civil 2024 1 26 (by decide)) "20240301" "m 31 2" =
      .error (.unsatisfiableRule "m 31 2") := by
  have hrule : Rule.parse "m 31 2" =
      .ok (.monthly (.ofList [.day 31]) (.ofList [2])) := by decide
  have hstored : Date.ofText? "20240301" = some (.civil 2024 3 1 (by decide)) := by decide
  exact ⟨by decide, by decide, by decide, by decide,
    complete_of_fitsNoDate hrule hstored (by decide)⟩

end Agenda
