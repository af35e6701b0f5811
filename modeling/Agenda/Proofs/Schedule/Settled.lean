import Agenda.Proofs.Calendar.DateText
import Agenda.Proofs.Rule.Grammar
import Agenda.Proofs.Schedule.Basic

/-!
# Dates that stay

The date under which a task is stored is not past, and storing the task again before that day does
not move it. A task is refused for its rule, its date or what the rule makes of the date, in this
order (`Refused`). Both are put together in `normalizeDate_settled`.
-/

namespace Agenda

open Calendar

variable {now date : Date} {stored repeatText text : String} {e : Error}

/-! ### Refusals -/

/-- Why a task is not stored: its rule cannot be read; or else it has a date that cannot be read; or
else the date is past and the rule has no next one. -/
inductive Refused (now : Date) (stored repeatText : String) : Error → Prop where
  | rule {e : Error} (hne : repeatText ≠ "") (hrule : Rule.parse repeatText = .error e) :
    Refused now stored repeatText e
  | date (hrule : repeatText = "" ∨ ∃ rule, Rule.parse repeatText = .ok rule) (hne : stored ≠ "")
    (hstored : Date.ofText? stored = none) : Refused now stored repeatText (.invalidDate stored)
  | unsatisfiable {rule : Rule} {day : Date} (hrule : Rule.parse repeatText = .ok rule)
    (hstored : Date.ofText? stored = some day) (hpast : day < now)
    (hnext : ¬∃ next, nextDate now day rule = .ok next) :
    Refused now stored repeatText (.unsatisfiableRule rule.text)

/-- A rule that is read and has no next date is refused under its canonical text. -/
theorem nextDate_eq_error_iff_of_parse {rule : Rule} (hrule : Rule.parse repeatText = .ok rule) :
    nextDate now date rule = .error e ↔
      e = .unsatisfiableRule rule.text ∧ ¬∃ next, nextDate now date rule = .ok next :=
  nextDate_eq_error_iff_not_exists (Rule.wellFormed_of_parse hrule).ne_daily_zero

private theorem refused_of_normalizeDate (h : normalizeDate now stored repeatText = .error e) :
    Refused now stored repeatText e := by
  have hdecision := decision now stored repeatText
  generalize normalizeDate now stored repeatText = result at h hdecision
  cases hdecision with
  | badRule hrule =>
    obtain ⟨hne, hparse⟩ := Rule.parseOptional_eq_error_iff.1 hrule
    rw [← Except.error.inj h]
    exact .rule hne hparse
  | noDate _ _ => exact absurd h (by simp)
  | badDate hrule hne hstored =>
    rw [← Except.error.inj h]
    exact .date (Rule.exists_parseOptional_iff.1 ⟨_, hrule⟩) hne hstored
  | stays _ _ _ => exact absurd h (by simp)
  | snaps _ _ _ => exact absurd h (by simp)
  | moves hrule hstored hlt =>
    rw [map_eq_error_iff, nextDate_eq_error_iff_of_parse hrule] at h
    rw [h.1]
    exact .unsatisfiable hrule hstored hlt h.2

/-- A task is refused exactly where one of the reasons applies. -/
theorem normalizeDate_eq_error_iff :
    normalizeDate now stored repeatText = .error e ↔ Refused now stored repeatText e := by
  constructor
  · exact refused_of_normalizeDate
  · intro h
    cases h with
    | rule hne hrule => exact normalizeDate_of_error (Rule.parseOptional_of_error hne hrule)
    | date hrule hne hstored =>
      obtain ⟨optional, hoptional⟩ := Rule.exists_parseOptional_iff.2 hrule
      exact normalizeDate_of_ofText?_eq_none hoptional hne hstored
    | unsatisfiable hrule hstored hpast hnext =>
      rw [normalizeDate_of_lt_of_parse hrule hstored hpast, map_eq_error_iff,
        nextDate_eq_error_iff_of_parse hrule]
      exact ⟨rfl, hnext⟩

/-- No task is refused for want of a rule. -/
theorem Refused.ne_noRule (h : Refused now stored repeatText e) : e ≠ .noRule := by
  cases h with
  | rule _ hrule =>
    rintro rfl
    cases Rule.isFault_of_parse hrule
  | date _ _ _ => simp
  | unsatisfiable _ _ _ _ => simp

/-! ### Dates -/

/-- The text of a day has eight digits. -/
def HasEightDigits (text : String) : Prop :=
  text.toList.length = 8 ∧ ∀ c ∈ text.toList, c.isDigit = true

instance (text : String) : Decidable (HasEightDigits text) :=
  decidable_of_iff (text.toList.length = 8 ∧ text.toList.all Char.isDigit = true)
    (and_congr_right' List.all_eq_true)

private theorem exists_le_of_normalizeDate (h : normalizeDate now stored repeatText = .ok text) :
    ∃ date : Date, text = date.text ∧ now ≤ date := by
  rcases normalizeDate_cases h with rfl | ⟨rfl, day, hday, hle⟩ | ⟨next, hmoves, rfl⟩
  · exact ⟨now, rfl, le_rfl⟩
  · exact ⟨day, (Date.ofText?_eq_some_iff.1 hday).1, hle⟩
  · exact ⟨next, rfl, (lt_of_movesTo hmoves).le⟩

/-- The text of a date has eight digits exactly if its year fits. -/
theorem hasEightDigits_text_iff : HasEightDigits date.text ↔ date.HasFourDigitYear := by
  rw [HasEightDigits, Date.text, String.toList_ofList, Date.length_chars_eq_eight_iff,
    and_iff_left_iff_imp]
  intro h
  exact List.all_eq_true.1 (Date.all_isDigit_chars h)

/-- A text of eight digits that is the text of a day is read as that day. -/
theorem HasEightDigits.ofText?_text (h : HasEightDigits date.text) :
    Date.ofText? date.text = some date := by
  apply Date.ofText?_text
  rw [← Date.length_chars_eq_eight_iff, ← h.1, Date.text, String.toList_ofList]

/-- The text of a day that is not past stays, and is accepted exactly if its year fits. -/
theorem normalizeDate_text_eq_ok_iff {optional : Option Rule}
    (hrule : Rule.parseOptional repeatText = .ok optional) (hle : now ≤ date) :
    normalizeDate now date.text repeatText = .ok text ↔
      text = date.text ∧ date.HasFourDigitYear := by
  by_cases hyear : date.HasFourDigitYear
  · rw [normalizeDate_of_le hrule (Date.ofText?_text hyear) hle, Except.ok.injEq, eq_comm,
      and_iff_left hyear]
  · rw [normalizeDate_of_ofText?_eq_none hrule date.text_ne_empty
      (Date.ofText?_text_eq_none hyear)]
    simp [hyear]

/-- A date that was brought up to date stays as it is the next time exactly if its text has eight
digits. -/
theorem normalizeDate_again_iff (h : normalizeDate now stored repeatText = .ok text) :
    normalizeDate now text repeatText = .ok text ↔ HasEightDigits text := by
  obtain ⟨optional, hrule⟩ := parseOptional_of_normalizeDate h
  obtain ⟨date, rfl, hle⟩ := exists_le_of_normalizeDate h
  rw [normalizeDate_text_eq_ok_iff hrule hle, hasEightDigits_text_iff, and_iff_right rfl]

/-- A task is stored under a day that is not past: the given one, where there is one and it is not
past. Where the text of that day has eight digits, the task stays under it when it is stored again,
on the same day or on any other up to that of the task. A task that is not stored is refused for its
rule; or else for a date that cannot be read; or else for having no next date; never for having no
rule. -/
theorem normalizeDate_settled (now : Date) (stored repeatText : String) :
    (∀ text, normalizeDate now stored repeatText = .ok text →
      ∃ date : Date, text = date.text ∧ now ≤ date ∧
        (∀ day, Date.ofText? stored = some day → now ≤ day → text = stored) ∧
        (HasEightDigits text →
          Date.ofText? text = some date ∧ normalizeDate now text repeatText = .ok text ∧
            ∀ today ≤ date, normalizeDate today text repeatText = .ok text)) ∧
    (∀ e, normalizeDate now stored repeatText = .error e ↔ Refused now stored repeatText e) ∧
    normalizeDate now stored repeatText ≠ .error .noRule := by
  refine ⟨fun text h ↦ ?_, fun e ↦ normalizeDate_eq_error_iff, fun h ↦ ?_⟩
  · obtain ⟨optional, hrule⟩ := parseOptional_of_normalizeDate h
    obtain ⟨date, rfl, hle⟩ := exists_le_of_normalizeDate h
    refine ⟨date, rfl, hle, fun day hday hnotPast ↦ ?_, fun hdigits ↦ ?_⟩
    · rw [normalizeDate_of_le hrule hday hnotPast] at h
      exact (Except.ok.inj h).symm
    · have hread := hdigits.ofText?_text
      exact ⟨hread, normalizeDate_of_le hrule hread hle,
        fun today ↦ normalizeDate_of_le hrule hread⟩
  · exact (refused_of_normalizeDate h).ne_noRule rfl

end Agenda
