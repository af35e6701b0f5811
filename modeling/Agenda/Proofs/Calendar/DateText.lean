import Agenda.Calendar.DateText
import Agenda.Proofs.Calendar.DayNumber
import Agenda.Proofs.Text.Pieces

/-!
# The stored form of a date

Exactly the dates of the years 0 to 9999 are read back from their text, and nothing else is read as
a date (`Date.ofText?_eq_some_iff`). The texts of these dates are in the order of the calendar
(`Date.text_lt_text_iff`).
-/

namespace Agenda.Calendar

open Agenda.Text

namespace Date

/-- The year fits the four digits that the stored form has for it. -/
def HasFourDigitYear (date : Date) : Prop := 0 ≤ date.year ∧ date.year ≤ 9999

instance (date : Date) : Decidable date.HasFourDigitYear := inferInstanceAs (Decidable (_ ∧ _))

/-- A day number has two digits at most. -/
theorem day_lt (date : Date) : date.day < 32 := by
  have hd := date.day_mem
  have hlen : monthLength date.year date.month ≤ 31 := by
    unfold monthLength
    split
    · split <;> decide
    all_goals decide
  omega

/-- A day number fits two digits. -/
theorem day_lt_hundred (date : Date) : date.day < 10 ^ 2 := by
  have := date.day_lt
  omega

/-- A month number fits two digits. -/
theorem month_lt_hundred (date : Date) : date.month < 10 ^ 2 := by
  have := date.month_mem
  omega

/-- A year that fits four digits is below ten thousand. -/
theorem HasFourDigitYear.toNat_lt {date : Date} (h : date.HasFourDigitYear) :
    date.year.toNat < 10 ^ 4 := by
  unfold HasFourDigitYear at h
  omega

private theorem length_yearText (date : Date) :
    if date.HasFourDigitYear then (yearText date.year).length = 4
    else 5 ≤ (yearText date.year).length := by
  unfold HasFourDigitYear yearText
  split
  · next h =>
    exact length_zeroPadded (by decide) (HasFourDigitYear.toNat_lt h)
  · have := le_length_zeroPadded 4 date.year.natAbs
    split <;> exact Nat.succ_le_succ this

/-- Month and day take two digits each. -/
theorem length_chars (date : Date) :
    date.chars.length = (yearText date.year).length + 4 := by
  rw [chars, List.length_append, List.length_append,
    length_zeroPadded (by decide) date.month_lt_hundred,
    length_zeroPadded (by decide) date.day_lt_hundred]

/-- The stored form has eight characters exactly if the year fits. -/
theorem length_chars_eq_eight_iff {date : Date} :
    date.chars.length = 8 ↔ date.HasFourDigitYear := by
  have h := date.length_yearText
  rw [length_chars]
  split at h
  · next hyear => exact iff_of_true (by omega) hyear
  · next hyear => exact iff_of_false (by omega) hyear

/-- The text of a date is not empty. -/
theorem text_ne_empty (date : Date) : date.text ≠ "" := by
  intro h
  have hlen := date.length_chars
  rw [String.ofList_injective h] at hlen
  exact absurd hlen (by simp)

private theorem chars_eq_append {date : Date} (h : date.HasFourDigitYear) :
    date.chars =
      zeroPadded 4 date.year.toNat ++ (zeroPadded 2 date.month ++ zeroPadded 2 date.day) := by
  have hyear : yearText date.year = zeroPadded 4 date.year.toNat := if_pos h
  rw [chars, hyear, List.append_assoc]

/-- The stored form of a year that fits is read back. -/
theorem ofChars?_chars {date : Date} (h : date.HasFourDigitYear) :
    ofChars? date.chars = some date := by
  have hfour := length_zeroPadded (show 0 < 4 by decide) h.toNat_lt
  have htwo := length_zeroPadded (show 0 < 2 by decide) date.month_lt_hundred
  have hdrop : date.chars.drop 4 = zeroPadded 2 date.month ++ zeroPadded 2 date.day := by
    rw [chars_eq_append h, List.drop_left' hfour]
  have hrest : date.chars.drop 6 = zeroPadded 2 date.day := by
    rw [← List.drop_drop (i := 2) (j := 4), hdrop, List.drop_left' htwo]
  have htake : date.chars.take 4 = zeroPadded 4 date.year.toNat := by
    rw [chars_eq_append h, List.take_left' hfour]
  rw [ofChars?, if_pos (length_chars_eq_eight_iff.2 h), htake, hdrop, List.take_left' htwo, hrest]
  simp only [readNat?_zeroPadded, Option.bind_eq_bind, Option.bind_some, Int.toNat_of_nonneg h.1]
  exact ofCivil?_eq_some_iff.2 ⟨rfl, rfl, rfl⟩

/-- Eight characters are read in three parts. -/
theorem ofChars?_eq_some_iff {cs : List Char} {date : Date} :
    ofChars? cs = some date ↔ cs = date.chars ∧ date.HasFourDigitYear := by
  constructor
  · intro h
    unfold ofChars? at h
    split at h
    · next hlen =>
      obtain ⟨year, hyear, h⟩ := Option.bind_eq_some_iff.1 h
      obtain ⟨month, hmonth, h⟩ := Option.bind_eq_some_iff.1 h
      obtain ⟨day, hday, h⟩ := Option.bind_eq_some_iff.1 h
      obtain ⟨hy, hm, hd⟩ := ofCivil?_eq_some_iff.1 h
      obtain ⟨hlt, hyear⟩ := (readNat?_eq_some_iff (show 0 < 4 by decide)
        (by rw [List.length_take]; omega)).1 hyear
      obtain ⟨_, hmonth⟩ := (readNat?_eq_some_iff (show 0 < 2 by decide)
        (by rw [List.length_take, List.length_drop]; omega)).1 hmonth
      obtain ⟨_, hday⟩ := (readNat?_eq_some_iff (show 0 < 2 by decide)
        (by rw [List.length_drop]; omega)).1 hday
      have hfits : 0 ≤ date.year ∧ date.year ≤ 9999 := by omega
      refine ⟨?_, hfits⟩
      rw [chars_eq_append hfits, hy, Int.toNat_natCast, ← hyear, hm, hd, ← hmonth, ← hday,
        ← List.drop_drop (i := 2) (j := 4), List.take_append_drop, List.take_append_drop]
    · exact absurd h (by simp)
  · rintro ⟨rfl, hfits⟩
    exact ofChars?_chars hfits

/-- A text is read as a date exactly if it is the stored form of the date and its year fits. -/
theorem ofText?_eq_some_iff {text : String} {date : Date} :
    ofText? text = some date ↔ text = date.text ∧ date.HasFourDigitYear := by
  rw [ofText?, ofChars?_eq_some_iff, Date.text, ← String.toList_inj, String.toList_ofList]

/-- A date of the years 0 to 9999 is read back from its text. -/
theorem ofText?_text {date : Date} (h : date.HasFourDigitYear) :
    ofText? date.text = some date :=
  ofText?_eq_some_iff.2 ⟨rfl, h⟩

/-- The text of any other date is not read. -/
theorem ofText?_text_eq_none {date : Date} (h : ¬date.HasFourDigitYear) :
    ofText? date.text = none := by
  have hlen : ¬date.chars.length = 8 := fun h8 ↦ h (length_chars_eq_eight_iff.1 h8)
  rw [ofText?, Date.text, String.toList_ofList, ofChars?, if_neg hlen]

/-- The text of a date is read exactly if its year fits. -/
theorem isSome_ofText?_text_iff {date : Date} :
    (ofText? date.text).isSome ↔ date.HasFourDigitYear := by
  by_cases h : date.HasFourDigitYear
  · rw [ofText?_text h]
    exact iff_of_true rfl h
  · rw [ofText?_text_eq_none h]
    exact iff_of_false (by simp) h

/-! ### One form for each date -/

private theorem denotes_yearText (year : Int) : Denotes (yearText year) year := by
  unfold yearText
  split
  · next hfits =>
    have hrun := Denotes.unsigned (isRunOf_zeroPadded 4 year.toNat)
    rwa [Int.toNat_of_nonneg hfits.1] at hrun
  · next hlong =>
    split
    · next hneg =>
      have hrun := Denotes.minus (isRunOf_zeroPadded 4 year.natAbs)
      rwa [Int.ofNat_natAbs_of_nonpos (Int.le_of_lt hneg), Int.neg_neg] at hrun
    · next hneg =>
      have hrun := Denotes.plus (isRunOf_zeroPadded 4 year.natAbs)
      rwa [Int.natAbs_of_nonneg (Int.not_lt.1 hneg)] at hrun

/-- Different dates have different texts. -/
theorem text_injective : Function.Injective text := by
  intro a b h
  have hchars : a.chars = b.chars := String.ofList_injective h
  have htwo {m n : Nat} (hm : m < 10 ^ 2) (hn : n < 10 ^ 2) :
      (zeroPadded 2 m).length = (zeroPadded 2 n).length := by
    rw [length_zeroPadded (by decide) hm, length_zeroPadded (by decide) hn]
  have hvalue {m n : Nat} (heq : zeroPadded 2 m = zeroPadded 2 n) : m = n := by
    rw [← ofDigitChars_zeroPadded 2 m, heq, ofDigitChars_zeroPadded]
  -- Month and day take up the same room in both, so the rest is the year.
  obtain ⟨hfront, hday⟩ := List.append_inj' hchars (htwo a.day_lt_hundred b.day_lt_hundred)
  obtain ⟨hyear, hmonth⟩ := List.append_inj' hfront (htwo a.month_lt_hundred b.month_lt_hundred)
  have hb := denotes_yearText b.year
  rw [← hyear] at hb
  exact eq_of_civil_eq ((denotes_yearText a.year).unique hb) (hvalue hmonth) (hvalue hday)

/-! ### The order of the stored forms -/

/-- The stored form of a year that fits consists of digits. -/
theorem all_isDigit_chars {date : Date} (h : date.HasFourDigitYear) :
    date.chars.all Char.isDigit = true := by
  rw [chars_eq_append h, List.all_append, List.all_append, all_isDigit_zeroPadded,
    all_isDigit_zeroPadded, all_isDigit_zeroPadded]
  rfl

/-- As a number, a year with the month and the day behind it counts years in ten thousands and
months in hundreds. -/
theorem ofDigitChars_append_month_day (date : Date) (year : Nat) :
    Nat.ofDigitChars 10
        (zeroPadded 4 year ++ (zeroPadded 2 date.month ++ zeroPadded 2 date.day)) 0 =
      10000 * year + 100 * date.month + date.day := by
  have hmonth := length_zeroPadded (show 0 < 2 by decide) date.month_lt_hundred
  have hday := length_zeroPadded (show 0 < 2 by decide) date.day_lt_hundred
  rw [Nat.ofDigitChars_append, Nat.ofDigitChars_append, ofDigitChars_zeroPadded,
    Nat.ofDigitChars_eq_ofDigitChars_zero, hday, ofDigitChars_zeroPadded,
    Nat.ofDigitChars_eq_ofDigitChars_zero, hmonth, ofDigitChars_zeroPadded]
  omega

private theorem ofDigitChars_chars {date : Date} (h : date.HasFourDigitYear) :
    Nat.ofDigitChars 10 date.chars 0 =
      10000 * date.year.toNat + 100 * date.month + date.day := by
  rw [chars_eq_append h, ofDigitChars_append_month_day]

/-- The texts of dates whose years fit are in the order of the dates. -/
theorem text_lt_text_iff {a b : Date} (ha : a.HasFourDigitYear) (hb : b.HasFourDigitYear) :
    a.text < b.text ↔ a < b := by
  have hlen : a.chars.length = b.chars.length := by
    rw [length_chars_eq_eight_iff.2 ha, length_chars_eq_eight_iff.2 hb]
  rw [String.lt_iff, text, text, String.toList_ofList, String.toList_ofList,
    lt_iff_ofDigitChars_lt (all_isDigit_chars ha) (all_isDigit_chars hb) hlen,
    ofDigitChars_chars ha, ofDigitChars_chars hb, lt_iff_civil_lt]
  have haMonth := a.month_mem
  have hbMonth := b.month_mem
  have haDay := a.day_lt
  have hbDay := b.day_lt
  unfold HasFourDigitYear at ha hb
  omega

end Date

end Agenda.Calendar
