import Agenda.Schedule
import Agenda.Proofs.Recurrence.NextDate
import Agenda.Proofs.Rule.Text

/-!
# What scheduling comes to

Equations for the two decisions about a task's date, one for each case: the rule is read first, then
the date, and only a date in the past or a completion asks the rule for the next one.
-/

namespace Agenda

open Calendar

/-! ### Optional rules -/

section Rules

variable {text : String} {rule : Rule} {e : Error}

private theorem Rule.ne_empty_of_parse (h : Rule.parse text = .ok rule) : text ≠ "" := by
  rintro rfl
  exact absurd h (by simp [Rule.parse])

/-- A text that reads as a rule stands for that rule. -/
theorem Rule.parseOptional_of_parse (h : Rule.parse text = .ok rule) :
    Rule.parseOptional text = .ok (some rule) := by
  rw [parseOptional, if_neg (Rule.ne_empty_of_parse h), h]
  rfl

/-- Some rule is read exactly from the text of one. -/
theorem Rule.parseOptional_eq_some_iff :
    Rule.parseOptional text = .ok (some rule) ↔ Rule.parse text = .ok rule := by
  constructor
  · intro h
    unfold parseOptional at h
    split at h
    · exact absurd h (by simp)
    · obtain ⟨found, hparse, hfound⟩ := map_eq_ok_iff.1 h
      rw [hparse, Option.some.inj hfound]
  · exact Rule.parseOptional_of_parse

/-- A text that is not empty is refused as the text of a rule would be. -/
theorem Rule.parseOptional_of_error (hne : text ≠ "") (h : Rule.parse text = .error e) :
    Rule.parseOptional text = .error e := by
  rw [parseOptional, if_neg hne, h]
  rfl

/-- No rule is read exactly from the empty text. -/
theorem Rule.parseOptional_eq_none_iff : Rule.parseOptional text = .ok none ↔ text = "" := by
  constructor
  · intro h
    unfold parseOptional at h
    split at h
    · assumption
    · obtain ⟨found, _, hfound⟩ := map_eq_ok_iff.1 h
      exact absurd hfound (by simp)
  · rintro rfl
    rfl

/-- An optional rule is read exactly where there is none or one that can be read. -/
theorem Rule.exists_parseOptional_iff :
    (∃ optional, Rule.parseOptional text = .ok optional) ↔
      text = "" ∨ ∃ rule, Rule.parse text = .ok rule := by
  constructor
  · rintro ⟨optional, h⟩
    cases optional with
    | none => exact .inl (Rule.parseOptional_eq_none_iff.1 h)
    | some rule => exact .inr ⟨rule, Rule.parseOptional_eq_some_iff.1 h⟩
  · rintro (h | ⟨rule, h⟩)
    · exact ⟨none, Rule.parseOptional_eq_none_iff.2 h⟩
    · exact ⟨some rule, Rule.parseOptional_of_parse h⟩

/-- An optional rule is refused exactly as the rule is, where there is one. -/
theorem Rule.parseOptional_eq_error_iff :
    Rule.parseOptional text = .error e ↔ text ≠ "" ∧ Rule.parse text = .error e := by
  constructor
  · intro h
    unfold parseOptional at h
    split at h
    · exact absurd h (by simp)
    · next hne => exact ⟨hne, map_eq_error_iff.1 h⟩
  · rintro ⟨hne, h⟩
    exact Rule.parseOptional_of_error hne h

end Rules

/-! ### Reading a date -/

/-- A date is read from its text. -/
theorem readDate_of_ofText?_eq_some {text : String} {date : Date}
    (h : Date.ofText? text = some date) : readDate text = .ok date := by
  simp only [readDate, h]

/-- Any other text is refused. -/
theorem readDate_of_ofText?_eq_none {text : String} (h : Date.ofText? text = none) :
    readDate text = .error (.invalidDate text) := by
  simp only [readDate, h]

/-! ### The next date on texts -/

section Texts

variable {now date : Date} {stored repeatText : String} {rule : Rule}

/-- Without a rule there is no next date, whatever the date. -/
theorem nextDateText_empty (now : Date) (stored : String) :
    nextDateText now stored "" = .error .noRule := rfl

/-- An unreadable date is refused before the rule is looked at. -/
theorem nextDateText_of_ofText?_eq_none (hne : repeatText ≠ "")
    (hstored : Date.ofText? stored = none) :
    nextDateText now stored repeatText = .error (.invalidDate stored) := by
  simp only [nextDateText, if_neg hne, readDate_of_ofText?_eq_none hstored, bind, Except.bind]

/-- Behind a readable date a bad rule is refused. -/
theorem nextDateText_of_parse_eq_error {e : Error} (hne : repeatText ≠ "")
    (hstored : Date.ofText? stored = some date) (hrule : Rule.parse repeatText = .error e) :
    nextDateText now stored repeatText = .error e := by
  simp only [nextDateText, if_neg hne, readDate_of_ofText?_eq_some hstored, hrule, bind,
    Except.bind]

/-- From a readable date a rule gives the text of the next one. -/
theorem nextDateText_of_parse (hrule : Rule.parse repeatText = .ok rule)
    (hstored : Date.ofText? stored = some date) :
    nextDateText now stored repeatText = (nextDate now date rule).map Date.text := by
  have hne := Rule.ne_empty_of_parse hrule
  simp only [nextDateText, if_neg hne, readDate_of_ofText?_eq_some hstored, hrule, bind,
    Except.bind]
  cases nextDate now date rule <;> rfl

end Texts

/-! ### The date of a task that is created or edited -/

section Normalize

variable {now date : Date} {stored repeatText : String} {rule : Rule} {e : Error}

/-- A bad rule is refused before the date is looked at. -/
theorem normalizeDate_of_error (h : Rule.parseOptional repeatText = .error e) :
    normalizeDate now stored repeatText = .error e := by
  simp only [normalizeDate, h]
  rfl

variable {optional : Option Rule}

/-- No date stands for the current day. -/
theorem normalizeDate_empty (h : Rule.parseOptional repeatText = .ok optional) :
    normalizeDate now "" repeatText = .ok now.text := by
  simp only [normalizeDate, h]
  rfl

/-- A text that is no date is refused. -/
theorem normalizeDate_of_ofText?_eq_none (h : Rule.parseOptional repeatText = .ok optional)
    (hne : stored ≠ "") (hstored : Date.ofText? stored = none) :
    normalizeDate now stored repeatText = .error (.invalidDate stored) := by
  simp only [normalizeDate, h, readDate_of_ofText?_eq_none hstored, bind, Except.bind, if_neg hne]

private theorem ne_empty_of_ofText?_eq_some (h : Date.ofText? stored = some date) :
    stored ≠ "" := by
  rintro rfl
  exact absurd h (by simp [Date.ofText?, Date.ofChars?])

/-- A date that is not past stays. -/
theorem normalizeDate_of_le (h : Rule.parseOptional repeatText = .ok optional)
    (hstored : Date.ofText? stored = some date) (hle : now ≤ date) :
    normalizeDate now stored repeatText = .ok stored := by
  have hne := ne_empty_of_ofText?_eq_some hstored
  have hkeep : DateAction.decide optional.isSome (decide (date < now)) = .keep := by
    simp [DateAction.decide, not_lt_of_ge hle]
  simp only [normalizeDate, h, readDate_of_ofText?_eq_some hstored, bind, Except.bind, if_neg hne,
    hkeep]
  rfl

private theorem normalizeDate_of_lt_of_none (hstored : Date.ofText? stored = some date)
    (hlt : date < now) : normalizeDate now stored "" = .ok now.text := by
  have hne := ne_empty_of_ofText?_eq_some hstored
  have hsnap : DateAction.decide false (decide (date < now)) = .snapToToday := by
    simp [DateAction.decide, hlt]
  simp only [normalizeDate, Rule.parseOptional, if_true, readDate_of_ofText?_eq_some hstored, bind,
    Except.bind, if_neg hne, Option.isSome_none, hsnap]
  rfl

/-- A past date with a rule moves to the next one. -/
theorem normalizeDate_of_lt_of_parse (hrule : Rule.parse repeatText = .ok rule)
    (hstored : Date.ofText? stored = some date) (hlt : date < now) :
    normalizeDate now stored repeatText = (nextDate now date rule).map Date.text := by
  have hne := ne_empty_of_ofText?_eq_some hstored
  have hadvance : DateAction.decide true (decide (date < now)) = .advance := by
    simp [DateAction.decide, hlt]
  simp only [normalizeDate, Rule.parseOptional_of_parse hrule, readDate_of_ofText?_eq_some hstored,
    bind, Except.bind, if_neg hne, Option.isSome_some, hadvance, nextDateOfOptional]
  cases nextDate now date rule <;> rfl

/-- The rule moves a past date to the next one. -/
def MovesTo (now : Date) (stored repeatText : String) (next : Date) : Prop :=
  ∃ rule date, Rule.parse repeatText = .ok rule ∧ Date.ofText? stored = some date ∧ date < now ∧
    nextDate now date rule = .ok next

/-- The rule moves a date past the current day. -/
theorem lt_of_movesTo {next : Date} (h : MovesTo now stored repeatText next) : now < next := by
  obtain ⟨_, _, _, _, _, hnext⟩ := h
  exact lt_of_nextDate_eq_ok hnext

/-- A date that the rule moves becomes the next one. -/
theorem normalizeDate_of_movesTo {next : Date} (h : MovesTo now stored repeatText next) :
    normalizeDate now stored repeatText = .ok next.text := by
  obtain ⟨rule, date, hrule, hstored, hlt, hnext⟩ := h
  rw [normalizeDate_of_lt_of_parse hrule hstored hlt, hnext]
  rfl

/-- What becomes of the date of a task that is created or edited, in the order in which the rule,
the date and the current day are looked at. -/
inductive Decision (now : Date) (stored repeatText : String) : Except Error String → Prop where
  /-- The rule cannot be read. -/
  | badRule {e : Error} (hrule : Rule.parseOptional repeatText = .error e) :
    Decision now stored repeatText (.error e)
  /-- There is no date. -/
  | noDate {optional : Option Rule} (hrule : Rule.parseOptional repeatText = .ok optional)
    (hempty : stored = "") : Decision now stored repeatText (.ok now.text)
  /-- The date cannot be read. -/
  | badDate {optional : Option Rule} (hrule : Rule.parseOptional repeatText = .ok optional)
    (hne : stored ≠ "") (hstored : Date.ofText? stored = none) :
    Decision now stored repeatText (.error (.invalidDate stored))
  /-- The date is not past. -/
  | stays {optional : Option Rule} {date : Date}
    (hrule : Rule.parseOptional repeatText = .ok optional)
    (hstored : Date.ofText? stored = some date) (hle : now ≤ date) :
    Decision now stored repeatText (.ok stored)
  /-- The date is past and there is no rule. -/
  | snaps {date : Date} (hrule : repeatText = "") (hstored : Date.ofText? stored = some date)
    (hlt : date < now) : Decision now stored repeatText (.ok now.text)
  /-- The date is past and the rule is asked for the next one. -/
  | moves {rule : Rule} {date : Date} (hrule : Rule.parse repeatText = .ok rule)
    (hstored : Date.ofText? stored = some date) (hlt : date < now) :
    Decision now stored repeatText ((nextDate now date rule).map Date.text)

/-- The date of a task that is created or edited is decided on in one of these ways. -/
theorem decision (now : Date) (stored repeatText : String) :
    Decision now stored repeatText (normalizeDate now stored repeatText) := by
  cases hrule : Rule.parseOptional repeatText with
  | error e =>
    rw [normalizeDate_of_error hrule]
    exact .badRule hrule
  | ok optional =>
    by_cases hempty : stored = ""
    · subst hempty
      rw [normalizeDate_empty hrule]
      exact .noDate hrule rfl
    · cases hstored : Date.ofText? stored with
      | none =>
        rw [normalizeDate_of_ofText?_eq_none hrule hempty hstored]
        exact .badDate hrule hempty hstored
      | some date =>
        rcases le_or_gt now date with hle | hlt
        · rw [normalizeDate_of_le hrule hstored hle]
          exact .stays hrule hstored hle
        · cases optional with
          | none =>
            obtain rfl := Rule.parseOptional_eq_none_iff.1 hrule
            rw [normalizeDate_of_lt_of_none hstored hlt]
            exact .snaps rfl hstored hlt
          | some rule =>
            have hparse := Rule.parseOptional_eq_some_iff.1 hrule
            rw [normalizeDate_of_lt_of_parse hparse hstored hlt]
            exact .moves hparse hstored hlt

/-- The date of a task that is created or edited is the current day, the given one if it is not
past, or the one that its rule moves it to. -/
theorem normalizeDate_cases {text : String} (h : normalizeDate now stored repeatText = .ok text) :
    text = now.text ∨ (text = stored ∧ ∃ date, Date.ofText? stored = some date ∧ now ≤ date) ∨
      ∃ next, MovesTo now stored repeatText next ∧ text = next.text := by
  have hdecision := decision now stored repeatText
  generalize normalizeDate now stored repeatText = result at h hdecision
  cases hdecision with
  | badRule _ => exact absurd h (by simp)
  | noDate _ _ => exact .inl (Except.ok.inj h).symm
  | badDate _ _ _ => exact absurd h (by simp)
  | stays _ hstored hle => exact .inr (.inl ⟨(Except.ok.inj h).symm, _, hstored, hle⟩)
  | snaps _ _ _ => exact .inl (Except.ok.inj h).symm
  | moves hrule hstored hlt =>
    obtain ⟨next, hnext, rfl⟩ := map_eq_ok_iff.1 h
    exact .inr (.inr ⟨next, ⟨_, _, hrule, hstored, hlt, hnext⟩, rfl⟩)

/-- A date is accepted only behind a rule that can be read, or none. -/
theorem parseOptional_of_normalizeDate {text : String}
    (h : normalizeDate now stored repeatText = .ok text) :
    ∃ optional, Rule.parseOptional repeatText = .ok optional := by
  cases hrule : Rule.parseOptional repeatText with
  | error e =>
    rw [normalizeDate_of_error hrule] at h
    exact absurd h (by simp)
  | ok optional => exact ⟨optional, rfl⟩

/-- What is accepted with a date is no rule or one that can be read. -/
theorem parse_of_normalizeDate {text : String}
    (h : normalizeDate now stored repeatText = .ok text) :
    repeatText = "" ∨ ∃ rule, Rule.parse repeatText = .ok rule :=
  Rule.exists_parseOptional_iff.1 (parseOptional_of_normalizeDate h)

end Normalize

/-! ### Completing a task -/

section Complete

variable {now date : Date} {stored repeatText : String} {rule : Rule}

/-- A task without a rule is done with. -/
theorem complete_empty (now : Date) (stored : String) : complete now stored "" = .ok .delete := rfl

/-- A bad rule is refused before the date is looked at. -/
theorem complete_of_error {e : Error} (h : Rule.parseOptional repeatText = .error e) :
    complete now stored repeatText = .error e := by
  simp only [complete, h]
  rfl

/-- A repeating task moves to its next date. -/
theorem complete_of_ofText?_eq_some (hrule : Rule.parse repeatText = .ok rule)
    (hstored : Date.ofText? stored = some date) :
    complete now stored repeatText = (nextDate now date rule).map .reschedule := by
  simp only [complete, Rule.parseOptional_of_parse hrule, readDate_of_ofText?_eq_some hstored, bind,
    Except.bind]
  cases nextDate now date rule <;> rfl

/-- A repeating task whose date is unreadable is refused. -/
theorem complete_of_ofText?_eq_none (hrule : Rule.parse repeatText = .ok rule)
    (hstored : Date.ofText? stored = none) :
    complete now stored repeatText = .error (.invalidDate stored) := by
  simp only [complete, Rule.parseOptional_of_parse hrule, readDate_of_ofText?_eq_none hstored, bind,
    Except.bind]

/-- A completion is the end of a task that does not repeat, asks the rule of one that does and has a
readable date, and is refused otherwise. -/
theorem complete_cases (now : Date) (stored repeatText : String) :
    (repeatText = "" ∧ complete now stored repeatText = .ok .delete) ∨
    (∃ e, complete now stored repeatText = .error e) ∨
    ∃ rule date, Rule.parse repeatText = .ok rule ∧ Date.ofText? stored = some date ∧
      complete now stored repeatText = (nextDate now date rule).map .reschedule := by
  cases hrule : Rule.parseOptional repeatText with
  | error e => exact .inr (.inl ⟨e, complete_of_error hrule⟩)
  | ok optional =>
    cases optional with
    | none =>
      obtain rfl := Rule.parseOptional_eq_none_iff.1 hrule
      exact .inl ⟨rfl, complete_empty now stored⟩
    | some rule =>
      have hparse := Rule.parseOptional_eq_some_iff.1 hrule
      cases hstored : Date.ofText? stored with
      | none => exact .inr (.inl ⟨_, complete_of_ofText?_eq_none hparse hstored⟩)
      | some date =>
        exact .inr (.inr ⟨rule, date, hparse, rfl, complete_of_ofText?_eq_some hparse hstored⟩)

/-- A completion moves a task exactly if it repeats, its date is readable and there is a next
one. -/
theorem complete_eq_reschedule_iff {next : Date} :
    complete now stored repeatText = .ok (.reschedule next) ↔
      ∃ rule date, Rule.parse repeatText = .ok rule ∧ Date.ofText? stored = some date ∧
        nextDate now date rule = .ok next := by
  constructor
  · intro h
    rcases complete_cases now stored repeatText with
      ⟨_, heq⟩ | ⟨e, heq⟩ | ⟨rule, date, hparse, hstored, heq⟩
    · exact absurd (heq.symm.trans h) (by simp)
    · exact absurd (heq.symm.trans h) (by simp)
    · rw [heq] at h
      obtain ⟨found, hnext, hfound⟩ := map_eq_ok_iff.1 h
      rw [Completion.reschedule.inj hfound] at hnext
      exact ⟨rule, date, hparse, hstored, hnext⟩
  · rintro ⟨rule, date, hparse, hstored, hnext⟩
    rw [complete_of_ofText?_eq_some hparse hstored, hnext]
    rfl

/-- A completion is the end of a task exactly if the task does not repeat. -/
theorem complete_eq_delete_iff :
    complete now stored repeatText = .ok .delete ↔ repeatText = "" := by
  constructor
  · intro h
    rcases complete_cases now stored repeatText with
      ⟨hempty, _⟩ | ⟨e, heq⟩ | ⟨rule, date, _, _, heq⟩
    · exact hempty
    · exact absurd (heq.symm.trans h) (by simp)
    · rw [heq] at h
      obtain ⟨next, _, hnext⟩ := map_eq_ok_iff.1 h
      exact absurd hnext (by simp)
  · rintro rfl
    exact complete_empty now stored

end Complete

end Agenda
