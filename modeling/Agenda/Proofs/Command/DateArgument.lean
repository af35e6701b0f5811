import Agenda.Command.DateArgument
import Agenda.Proofs.DateExpression.Signed
import Agenda.Proofs.Schedule.StoredForm

/-!
# Dates given on the command line

A date argument becomes the text of the day that it names (`dateArgument_eq_ok_iff`). Digits alone
name a day whose year has four digits, but an expression in English may lead to any year of the
calendar, and the year is not looked at when the text is written. Exactly the texts of four-digit
years are read by the store, taken again as they are, and never refused as a date
(`dateArgument_in_stored_form`).
-/

namespace Agenda.Command

open Calendar

/-- The day that a date argument names: digits alone name it in stored form, anything else in
English. -/
inductive NamesDay (text : String) (today : Date) : Date → Prop where
  | stored {date : Date} (hdigits : (Text.trim text.toList).all Char.isDigit = true)
      (hread : readDate (String.ofList (Text.trim text.toList)) = .ok date) :
    NamesDay text today date
  | english {date : Date} (hother : (Text.trim text.toList).all Char.isDigit = false)
      (hread : DateExpression.dateOf today (Text.trim text.toList) = .ok date) :
    NamesDay text today date

variable {text stored : String} {today date other : Date}

/-- An argument names one day at most. -/
theorem NamesDay.unique (h : NamesDay text today date) (h' : NamesDay text today other) :
    date = other := by
  cases h with
  | stored hdigits hread =>
    cases h' with
    | stored _ hread' => exact Except.ok.inj (hread.symm.trans hread')
    | english hother _ => exact absurd hdigits (by simp [hother])
  | english hother hread =>
    cases h' with
    | stored hdigits _ => exact absurd hdigits (by simp [hother])
    | english _ hread' => exact Except.ok.inj (hread.symm.trans hread')

/-! ### What an argument becomes -/

private theorem not_namesDay_of_allBlank (h : Text.allBlank text.toList = true) :
    ¬NamesDay text today date := by
  have htrim := (Text.trim_eq_nil_iff _).2 h
  intro hnames
  cases hnames with
  | stored _ hread =>
    rw [htrim] at hread
    exact absurd (readDate_eq_ok_iff.1 hread).1 (by decide)
  | english hother _ =>
    rw [htrim] at hother
    exact absurd hother (by decide)

private theorem dateArgument_of_allBlank (h : Text.allBlank text.toList = true) (today : Date) :
    dateArgument text today = .ok "" :=
  if_pos ((Text.trim_eq_nil_iff _).2 h)

private theorem dateArgument_of_not_allBlank (h : ¬Text.allBlank text.toList = true) :
    dateArgument text today = .ok stored ↔
      ∃ date, NamesDay text today date ∧ stored = date.text := by
  have htrim : Text.trim text.toList ≠ [] := by
    intro hnil
    exact h ((Text.trim_eq_nil_iff _).1 hnil)
  cases hdigits : (Text.trim text.toList).all Char.isDigit with
  | true =>
    have hnames (date : Date) : NamesDay text today date ↔
        readDate (String.ofList (Text.trim text.toList)) = .ok date := by
      constructor
      · intro h
        cases h with
        | stored _ hread => exact hread
        | english hother _ => exact absurd hdigits (by simp [hother])
      · exact .stored hdigits
    simp only [hnames, dateArgument, if_neg htrim, hdigits, if_true]
    cases readDate (String.ofList (Text.trim text.toList)) with
    | error e => simp
    | ok found => simp [eq_comm]
  | false =>
    have hnames (date : Date) : NamesDay text today date ↔
        DateExpression.dateOf today (Text.trim text.toList) = .ok date := by
      constructor
      · intro h
        cases h with
        | stored hall _ => exact absurd hall (by simp [hdigits])
        | english _ hread => exact hread
      · exact .english hdigits
    simp only [hnames, dateArgument, if_neg htrim, hdigits, Bool.false_eq_true, if_false]
    cases DateExpression.dateOf today (Text.trim text.toList) with
    | error fault => simp
    | ok found => simp [eq_comm]

/-- An argument becomes the text of the day that it names, or stays empty if it is blank. -/
theorem dateArgument_eq_ok_iff :
    dateArgument text today = .ok stored ↔
      Text.allBlank text.toList = true ∧ stored = "" ∨
        ∃ date, NamesDay text today date ∧ stored = date.text := by
  by_cases hblank : Text.allBlank text.toList = true
  · rw [dateArgument_of_allBlank hblank, Except.ok.injEq, eq_comm, and_iff_right hblank,
      iff_self_or]
    rintro ⟨date, hnames, _⟩
    exact absurd hnames (not_namesDay_of_allBlank hblank)
  · rw [dateArgument_of_not_allBlank hblank, iff_or_self]
    exact fun h ↦ absurd h.1 hblank

/-! ### The text of a day as an argument -/

private theorem isBlank_of_mem_chars {c : Char} (h : c ∈ date.chars) : Text.isBlank c = false := by
  have hpadded {width n : Nat} (hc : c ∈ Text.zeroPadded width n) : Text.isBlank c = false :=
    isBlank_of_isDigit (List.all_eq_true.1 (Text.all_isDigit_zeroPadded width n) c hc)
  rw [Date.chars, List.mem_append, List.mem_append, yearText] at h
  rcases h with (h | h) | h
  · split at h
    · exact hpadded h
    · split at h
      · rcases List.mem_cons.1 h with rfl | h
        · decide
        · exact hpadded h
      · rcases List.mem_cons.1 h with rfl | h
        · decide
        · exact hpadded h
  · exact hpadded h
  · exact hpadded h

private theorem trim_text (date : Date) : Text.trim date.text.toList = date.chars := by
  rw [Date.text, String.toList_ofList]
  exact Text.trim_eq_self fun c ↦ isBlank_of_mem_chars

private theorem namesDay_text_iff : NamesDay date.text today date ↔ date.HasFourDigitYear := by
  constructor
  · intro h
    cases h with
    | stored _ hread =>
      rw [trim_text] at hread
      exact hasEightDigits_text_iff.1 (readDate_eq_ok_iff.1 hread).1
    | english _ hread =>
      rw [trim_text] at hread
      by_contra hyear
      exact DateExpression.dateOf_chars_ne hyear today hread
  · intro h
    apply NamesDay.stored
    · rw [trim_text]
      exact Date.all_isDigit_chars h
    · rw [trim_text]
      exact readDate_of_ofText?_eq_some (Date.ofText?_text h)

private theorem dateArgument_text_eq_ok_iff :
    dateArgument date.text today = .ok date.text ↔ date.HasFourDigitYear := by
  rw [dateArgument_eq_ok_iff]
  constructor
  · rintro (⟨_, hempty⟩ | ⟨found, hnames, htext⟩)
    · exact absurd hempty date.text_ne_empty
    · obtain rfl := Date.text_injective htext
      exact namesDay_text_iff.1 hnames
  · intro h
    exact .inr ⟨date, namesDay_text_iff.2 h, rfl⟩

private theorem forall_normalizeDate_ne_invalidDate_iff :
    (∀ now repeatText, normalizeDate now stored repeatText ≠ .error (.invalidDate stored)) ↔
      stored = "" ∨ (Date.ofText? stored).isSome := by
  constructor
  · intro h
    by_contra hunread
    rw [not_or, Option.not_isSome_iff_eq_none] at hunread
    exact h (.civil 1 1 1 (by decide)) "" (normalizeDate_of_ofText?_eq_none rfl hunread.1 hunread.2)
  · intro h now repeatText hrefused
    cases normalizeDate_eq_error_iff.1 hrefused with
    | rule _ hrule => cases Rule.isFault_of_parse hrule
    | date _ hne hnone =>
      rcases h with h | h
      · exact hne h
      · rw [hnone] at h
        exact absurd h (by simp)

/-! ### Arguments in stored form -/

/-- What an argument becomes can be read by the store exactly if the day that it names, where it
names one, has a year of four digits. -/
theorem isStored_iff (h : dateArgument text today = .ok stored) :
    stored = "" ∨ (Date.ofText? stored).isSome ↔
      ∀ date, NamesDay text today date → date.HasFourDigitYear := by
  rcases dateArgument_eq_ok_iff.1 h with ⟨hblank, rfl⟩ | ⟨date, hnames, rfl⟩
  · apply iff_of_true (.inl rfl)
    intro date hnames
    exact absurd hnames (not_namesDay_of_allBlank hblank)
  · rw [or_iff_right date.text_ne_empty, Date.isSome_ofText?_text_iff]
    constructor
    · intro hyear other hother
      obtain rfl := hnames.unique hother
      exact hyear
    · intro hyears
      exact hyears date hnames

private theorem forall_dateArgument_eq_ok_iff (h : dateArgument text today = .ok stored) :
    (∀ day, dateArgument stored day = .ok stored) ↔
      stored = "" ∨ (Date.ofText? stored).isSome := by
  rcases dateArgument_eq_ok_iff.1 h with ⟨_, rfl⟩ | ⟨date, _, rfl⟩
  · apply iff_of_true _ (.inl rfl)
    intro day
    exact dateArgument_of_allBlank rfl day
  · rw [or_iff_right date.text_ne_empty, Date.isSome_ofText?_text_iff]
    constructor
    · intro hagain
      exact dateArgument_text_eq_ok_iff.1 (hagain today)
    · intro hyear day
      exact dateArgument_text_eq_ok_iff.2 hyear

/-- What becomes of a date argument. It stays empty if it is blank, and else becomes the text of the
day that it names, which is the stored form of this day if the argument has only digits. In any case
three things come to the same, that the day, if one is named, has a year of four digits: what the
argument becomes is empty or can be read by the store; it is taken again as it is on every day; and
the store never refuses it as a date, whatever the day and the rule. -/
theorem dateArgument_in_stored_form (text : String) (today : Date) :
    (dateArgument text today = .ok "" ↔ Text.allBlank text.toList = true) ∧
    (∀ date, NamesDay text today date → dateArgument text today = .ok date.text ∧
      ((Text.trim text.toList).all Char.isDigit = true → 0 ≤ date.year ∧ date.year ≤ 9999)) ∧
    ∀ stored, dateArgument text today = .ok stored →
      ((stored = "" ∨ (Date.ofText? stored).isSome) ↔
        ∀ date, NamesDay text today date → 0 ≤ date.year ∧ date.year ≤ 9999) ∧
      ((∀ day, dateArgument stored day = .ok stored) ↔
        ∀ date, NamesDay text today date → 0 ≤ date.year ∧ date.year ≤ 9999) ∧
      ((∀ now repeatText, normalizeDate now stored repeatText ≠ .error (.invalidDate stored)) ↔
        ∀ date, NamesDay text today date → 0 ≤ date.year ∧ date.year ≤ 9999) := by
  refine ⟨?_, ?_, ?_⟩
  · rw [dateArgument_eq_ok_iff, and_iff_left rfl, or_iff_left]
    rintro ⟨date, _, hempty⟩
    exact date.text_ne_empty hempty.symm
  · intro date hnames
    refine ⟨dateArgument_eq_ok_iff.2 (.inr ⟨date, hnames, rfl⟩), fun hdigits ↦ ?_⟩
    cases hnames with
    | stored _ hread =>
      obtain ⟨height, htext⟩ := readDate_eq_ok_iff.1 hread
      exact hasEightDigits_text_iff.1 (htext ▸ height)
    | english hother _ => exact absurd hdigits (by simp [hother])
  · intro stored h
    have hstored := isStored_iff h
    refine ⟨hstored, ?_, ?_⟩
    · rw [forall_dateArgument_eq_ok_iff h]
      exact hstored
    · rw [forall_normalizeDate_ne_invalidDate_iff]
      exact hstored

/-- The last day of the year 9999 can be named on the day before. -/
theorem dateArgument_in_stored_form_tomorrow :
    dateArgument "tomorrow" (.civil 9999 12 30 (by decide)) = .ok "99991231" ∧
    (("99991231" = "" ∨ (Date.ofText? "99991231").isSome) ↔
      ∀ date, NamesDay "tomorrow" (.civil 9999 12 30 (by decide)) date →
        0 ≤ date.year ∧ date.year ≤ 9999) := by
  have h : dateArgument "tomorrow" (.civil 9999 12 30 (by decide)) = .ok "99991231" := by decide
  exact ⟨h, ((dateArgument_in_stored_form "tomorrow" _).2.2 "99991231" h).1⟩

/-- The year 10000 is taken in and written with a sign, and the store refuses the date. -/
theorem not_isStored_late_year :
    (Date.civil 2024 1 26 (by decide)).HasFourDigitYear ∧
    dateArgument "10000-01-01" (.civil 2024 1 26 (by decide)) = .ok "+100000101" ∧
    "+100000101" ≠ "" ∧ Date.ofText? "+100000101" = none ∧
    normalizeDate (.civil 2024 1 26 (by decide)) "+100000101" "" =
      .error (.invalidDate "+100000101") := by
  refine ⟨by decide, ?_, by decide, by decide, by decide⟩
  decide +kernel

end Agenda.Command
