import Agenda.Proofs.Schedule.Settled
import Agenda.Proofs.Text.Bytes

/-!
# The stored form as a code

Reading and writing the stored form of a date are inverse to each other wherever the form has eight
digits, and no two dates share a form, also where it is longer. Forms of eight digits are in the
order of the calendar when they are compared byte by byte (`stored_form_codec`).
-/

namespace Agenda

open Calendar

variable {text : String} {date : Date}

/-- A date is read from the text exactly if the text has eight digits and is the form of the
date. -/
theorem readDate_eq_ok_iff : readDate text = .ok date ↔ HasEightDigits text ∧ date.text = text := by
  constructor
  · intro h
    cases hread : Date.ofText? text with
    | none =>
      rw [readDate_of_ofText?_eq_none hread] at h
      exact absurd h (by simp)
    | some found =>
      rw [readDate_of_ofText?_eq_some hread] at h
      obtain rfl := Except.ok.inj h
      obtain ⟨rfl, hyear⟩ := Date.ofText?_eq_some_iff.1 hread
      exact ⟨hasEightDigits_text_iff.2 hyear, rfl⟩
  · rintro ⟨hdigits, rfl⟩
    exact readDate_of_ofText?_eq_some hdigits.ofText?_text

/-- The text of a date is read back if its year fits, and refused otherwise. -/
theorem readDate_text (date : Date) :
    readDate date.text =
      if date.HasFourDigitYear then .ok date else .error (.invalidDate date.text) := by
  split
  · next h => exact readDate_of_ofText?_eq_some (Date.ofText?_text h)
  · next h => exact readDate_of_ofText?_eq_none (Date.ofText?_text_eq_none h)

private theorem isAscii_text (h : date.HasFourDigitYear) : Text.IsAscii date.text.toList := by
  rw [Date.text, String.toList_ofList]
  exact Text.isAscii_of_all_isDigit (Date.all_isDigit_chars h)

private theorem bytes_text_lt_iff {a b : Date} (ha : a.HasFourDigitYear) (hb : b.HasFourDigitYear) :
    Text.bytes a.text < Text.bytes b.text ↔ a < b := by
  rw [Text.bytes_lt_bytes_iff (isAscii_text ha) (isAscii_text hb), Date.text_lt_text_iff ha hb]

/-- What the stored form is as a code for dates. A date is read from exactly the text of eight
digits that is written for it. What is written for a date is read back as that date where its year
has four digits, and refused under its own text where it has not. No two dates of the whole calendar
are written alike. The texts of dates whose years have four digits, compared byte by byte, are in
the order of the dates. -/
theorem stored_form_codec :
    (∀ (text : String) (date : Date),
      readDate text = .ok date ↔ HasEightDigits text ∧ date.text = text) ∧
    (∀ date : Date, readDate date.text =
      if 0 ≤ date.year ∧ date.year ≤ 9999 then .ok date else .error (.invalidDate date.text)) ∧
    (∀ a b : Date, a.text = b.text → a = b) ∧
    ∀ a b : Date, 0 ≤ a.year ∧ a.year ≤ 9999 → 0 ≤ b.year ∧ b.year ≤ 9999 →
      (Text.bytes a.text < Text.bytes b.text ↔ a < b) := by
  refine ⟨?_, readDate_text, ?_, ?_⟩
  · intro text date
    exact readDate_eq_ok_iff
  · intro a b h
    exact Date.text_injective h
  · intro a b ha hb
    exact bytes_text_lt_iff ha hb

end Agenda
