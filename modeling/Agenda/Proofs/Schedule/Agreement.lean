import Agenda.Proofs.Schedule.Basic

/-!
# Three ways to ask for the next date

The next date on texts, the completion of a task and the date of a task that is created or edited
read the same two texts in different orders. They come to the same date or the same error; only
where neither text can be read does each name the one that it reads first (`nextDateText_agrees`).
-/

namespace Agenda

open Calendar

variable {now : Date} {stored repeatText : String}

private theorem nextDateText_complete_cases (now : Date) (stored : String) (hne : repeatText ≠ "") :
    (∃ e, Date.ofText? stored = none ∧ Rule.parse repeatText = .error e ∧
      nextDateText now stored repeatText = .error (.invalidDate stored) ∧
      complete now stored repeatText = .error e) ∨
    (∃ e, nextDateText now stored repeatText = .error e ∧
      complete now stored repeatText = .error e) ∨
    ∃ next : Date, nextDateText now stored repeatText = .ok next.text ∧
      complete now stored repeatText = .ok (.reschedule next) := by
  cases hrule : Rule.parse repeatText with
  | error e =>
    have hcomplete : complete now stored repeatText = .error e := by
      apply complete_of_error
      exact Rule.parseOptional_of_error hne hrule
    cases hstored : Date.ofText? stored with
    | none =>
      -- Both texts are at fault, and each function names the one that it reads first.
      left
      exact ⟨e, rfl, rfl, nextDateText_of_ofText?_eq_none hne hstored, hcomplete⟩
    | some date =>
      right; left
      exact ⟨e, nextDateText_of_parse_eq_error hne hstored hrule, hcomplete⟩
  | ok rule =>
    right
    cases hstored : Date.ofText? stored with
    | none =>
      left
      exact ⟨_, nextDateText_of_ofText?_eq_none hne hstored,
        complete_of_ofText?_eq_none hrule hstored⟩
    | some date =>
      rw [nextDateText_of_parse hrule hstored, complete_of_ofText?_eq_some hrule hstored]
      cases nextDate now date rule with
      | error e =>
        left
        exact ⟨e, rfl, rfl⟩
      | ok next =>
        right
        exact ⟨next, rfl, rfl⟩

/-- The next date on texts is the text of the date that a completion moves the task to. -/
theorem nextDateText_eq_ok_iff (hne : repeatText ≠ "") {text : String} :
    nextDateText now stored repeatText = .ok text ↔
      ∃ next : Date, complete now stored repeatText = .ok (.reschedule next) ∧
        text = next.text := by
  rcases nextDateText_complete_cases now stored hne with
    ⟨e, _, _, htext, hcomplete⟩ | ⟨e, htext, hcomplete⟩ | ⟨next, htext, hcomplete⟩
  · simp [htext, hcomplete]
  · simp [htext, hcomplete]
  · rw [htext, hcomplete, Except.ok.injEq]
    constructor
    · intro h
      exact ⟨next, rfl, h.symm⟩
    · rintro ⟨found, hfound, rfl⟩
      rw [Completion.reschedule.inj (Except.ok.inj hfound)]

private theorem exists_nextDateText_eq_error_iff (hne : repeatText ≠ "") :
    (∃ e, nextDateText now stored repeatText = .error e) ↔
      ∃ e, complete now stored repeatText = .error e := by
  rcases nextDateText_complete_cases now stored hne with
    ⟨e, _, _, htext, hcomplete⟩ | ⟨e, htext, hcomplete⟩ | ⟨next, htext, hcomplete⟩
  · simp [htext, hcomplete]
  · simp [htext, hcomplete]
  · simp [htext, hcomplete]

/-- Where one of the two texts can be read, both are refused with the same error. -/
theorem nextDateText_eq_error_iff (hne : repeatText ≠ "")
    (hread : (∃ date, Date.ofText? stored = some date) ∨ ∃ rule, Rule.parse repeatText = .ok rule)
    {e : Error} :
    nextDateText now stored repeatText = .error e ↔ complete now stored repeatText = .error e := by
  rcases nextDateText_complete_cases now stored hne with
    ⟨fault, hstored, hrule, _, _⟩ | ⟨fault, htext, hcomplete⟩ | ⟨next, htext, hcomplete⟩
  · rw [hstored, hrule] at hread
    simp at hread
  · rw [htext, hcomplete, Except.error.injEq, Except.error.injEq]
  · simp [htext, hcomplete]

private theorem errors_of_unreadable (hne : repeatText ≠ "") (hstored : Date.ofText? stored = none)
    {e : Error} (hrule : Rule.parse repeatText = .error e) :
    nextDateText now stored repeatText = .error (.invalidDate stored) ∧
      complete now stored repeatText = .error e := by
  constructor
  · exact nextDateText_of_ofText?_eq_none hne hstored
  · apply complete_of_error
    exact Rule.parseOptional_of_error hne hrule

/-- A past date that can be read moves on creation or change as the next date on texts says. -/
theorem normalizeDate_eq_nextDateText (hne : repeatText ≠ "") {date : Date}
    (hstored : Date.ofText? stored = some date) (hlt : date < now) :
    normalizeDate now stored repeatText = nextDateText now stored repeatText := by
  cases hrule : Rule.parse repeatText with
  | error e =>
    rw [nextDateText_of_parse_eq_error hne hstored hrule]
    apply normalizeDate_of_error
    exact Rule.parseOptional_of_error hne hrule
  | ok rule =>
    rw [normalizeDate_of_lt_of_parse hrule hstored hlt, nextDateText_of_parse hrule hstored]

/-- The three ways to ask for the next date agree. With a rule text, the next date on texts is the
text of the date that a completion moves the task to, and a past date moves on creation or change to
the same text, or is refused with the same error. The next date on texts and the completion are
refused for the same texts and with the same error, unless neither the date nor the rule can be
read: then the first names the date and the second what is wrong with the rule. Without a rule text
there is no next date and a completion is the end of the task, whatever the date. -/
theorem nextDateText_agrees (now : Date) (stored repeatText : String) :
    (repeatText ≠ "" →
      (∀ text, nextDateText now stored repeatText = .ok text ↔
        ∃ next : Date, complete now stored repeatText = .ok (.reschedule next) ∧
          text = next.text) ∧
      (∀ date, Date.ofText? stored = some date → date < now →
        normalizeDate now stored repeatText = nextDateText now stored repeatText) ∧
      ((∃ e, nextDateText now stored repeatText = .error e) ↔
        ∃ e, complete now stored repeatText = .error e) ∧
      ((∃ date, Date.ofText? stored = some date) ∨ (∃ rule, Rule.parse repeatText = .ok rule) →
        ∀ e, nextDateText now stored repeatText = .error e ↔
          complete now stored repeatText = .error e) ∧
      ∀ e, Date.ofText? stored = none → Rule.parse repeatText = .error e →
        nextDateText now stored repeatText = .error (.invalidDate stored) ∧
          complete now stored repeatText = .error e) ∧
    nextDateText now stored "" = .error .noRule ∧ complete now stored "" = .ok .delete := by
  refine ⟨?_, nextDateText_empty now stored, complete_empty now stored⟩
  intro hne
  refine ⟨?_, ?_, exists_nextDateText_eq_error_iff hne, ?_, ?_⟩
  · intro text
    exact nextDateText_eq_ok_iff hne
  · intro date hstored hlt
    exact normalizeDate_eq_nextDateText hne hstored hlt
  · intro hread e
    exact nextDateText_eq_error_iff hne hread
  · intro e hstored hrule
    exact errors_of_unreadable hne hstored hrule

end Agenda
