import Mathlib.Data.List.TakeWhile
import Agenda.Proofs.Calendar.DateText

/-!
# The search form of a date

A search may name a date by day, month and year between dots. A term is read as a date exactly if it
has the date in a loose form (`searchDate?_eq_some_iff`), where blanks may stand before each number
and a number may have fewer digits than its width, or a year a sign. The full form, with every
number in its width, is the loose form of ten digits and dots (`isFullForm_iff_isLooseForm`). It is
read back for exactly the dates that have a stored form, also between blanks (`searchDate?_trim`).
-/

namespace Agenda.Calendar

open Agenda.Text

/-! ### Behind blanks -/

/-- A digit is no blank. -/
theorem isBlank_of_isDigit {c : Char} (h : c.isDigit = true) : isBlank c = false := by
  have hdigit := digit_lt h
  simp only [isBlank, inRanges, blankRanges, List.any_cons, List.any_nil, Bool.or_false,
    Bool.or_eq_false_iff, Bool.and_eq_false_iff, decide_eq_false_iff_not]
  omega

private theorem dropWhile_isBlank_append {blanks rest : List Char}
    (hblanks : allBlank blanks = true) (hrest : ∀ c ∈ rest.head?, isBlank c = false) :
    (blanks ++ rest).dropWhile isBlank = rest := by
  rw [List.dropWhile_append_of_pos (List.all_eq_true.1 hblanks)]
  cases rest with
  | nil => rfl
  | cons c cs =>
    rw [List.dropWhile_cons, hrest c rfl]
    rfl

private theorem isDigit_of_mem_head? {run rest : List Char} {n : Nat} (h : IsRunOf run n) {c : Char}
    (hc : c ∈ (run ++ rest).head?) : c.isDigit = true := by
  cases run with
  | nil => exact absurd rfl h.ne_nil
  | cons d ds => exact h.digits c (Option.some.inj hc ▸ List.mem_cons_self)

/-- Blanks, if any, and then digits that stand for the number, at most as many as given. -/
def IsLooseNumber (most : Nat) (cs : List Char) (n : Nat) : Prop :=
  ∃ blanks run, cs = blanks ++ run ∧ allBlank blanks = true ∧ IsRunOf run n ∧ run.length ≤ most

/-- A year is written in four characters at most, or with a sign. -/
def HasYearLength (cs : List Char) : Prop := cs.length ≤ 4 ∨ '+' ∈ cs.head? ∨ '-' ∈ cs.head?

/-- Blanks, if any, and then the year, in at most four digits or any number of them behind a
sign. -/
def IsLooseYear (cs : List Char) (year : Int) : Prop :=
  ∃ blanks numeral, cs = blanks ++ numeral ∧ allBlank blanks = true ∧ Denotes numeral year ∧
    HasYearLength numeral

/-- A number is read up to something other than a digit exactly if it stands there in loose form. -/
theorem leadingNumber?_eq_some_iff {most n : Nat} {cs rest : List Char} {c : Char}
    (hc : c.isDigit = false) :
    leadingNumber? most cs = some (n, c :: rest) ↔
      ∃ field, cs = field ++ c :: rest ∧ IsLooseNumber most field n := by
  constructor
  · intro h
    obtain ⟨value, hvalue, hpair⟩ := Option.map_eq_some_iff.1 h
    obtain ⟨rfl, hrest⟩ := Prod.mk.inj hpair
    generalize hrun :
      ((cs.dropWhile isBlank).take most).takeWhile Char.isDigit = run at hvalue hrest
    have hprefix : run <+: cs.dropWhile isBlank :=
      hrun ▸ (List.takeWhile_prefix _).trans (List.take_prefix _ _)
    have hlen : run.length ≤ most :=
      hrun ▸ (List.takeWhile_prefix _).length_le.trans (List.length_take_le _ _)
    refine ⟨cs.takeWhile isBlank ++ run, ?_, _, run, rfl, List.all_takeWhile,
      readNat?_eq_some_iff_isRunOf.1 hvalue, hlen⟩
    rw [List.append_assoc, ← hrest, List.prefix_iff_eq_append.1 hprefix,
      List.takeWhile_append_dropWhile]
  · rintro ⟨_, rfl, blanks, run, rfl, hblanks, hrun, hlen⟩
    have hstart : (blanks ++ run ++ c :: rest).dropWhile isBlank = run ++ c :: rest := by
      rw [List.append_assoc]
      apply dropWhile_isBlank_append hblanks
      intro d hd
      exact isBlank_of_isDigit (isDigit_of_mem_head? hrun hd)
    -- The digits end before the character, or at the most that are read.
    have hstop : ((c :: rest).take (most - run.length)).takeWhile Char.isDigit = [] := by
      cases most - run.length with
      | zero => rfl
      | succ left => rw [List.take_succ_cons, List.takeWhile_cons_of_neg (by simp [hc])]
    rw [leadingNumber?, hstart, List.take_append, List.take_of_length_le hlen,
      List.takeWhile_append_of_pos hrun.digits, hstop, List.append_nil,
      readNat?_eq_some_iff_isRunOf.2 hrun, Option.map_some, List.drop_left' rfl]

private theorem searchYear?_eq_some_iff_denotes {cs : List Char} {year : Int} :
    searchYear? cs = some year ↔
      Denotes (cs.dropWhile isBlank) year ∧ HasYearLength (cs.dropWhile isBlank) := by
  unfold searchYear? HasYearLength
  rw [← readInt?_eq_some_iff]
  generalize cs.dropWhile isBlank = numeral
  split
  · rw [readInt?, and_iff_left (.inr (.inr rfl))]
  · rw [readInt?, and_iff_left (.inr (.inl rfl))]
  · next hminus hplus =>
    have hread : readInt? numeral = (readNat? numeral).map Int.ofNat := by
      rw [readInt?] <;> assumption
    have hsign : ¬('+' ∈ numeral.head? ∨ '-' ∈ numeral.head?) := by
      rintro (h | h)
      · obtain ⟨rest, rfl⟩ := List.head?_eq_some_iff.1 h
        exact hplus rest rfl
      · obtain ⟨rest, rfl⟩ := List.head?_eq_some_iff.1 h
        exact hminus rest rfl
    rw [hread, or_iff_left hsign, Option.ite_none_right_eq_some, and_comm]

/-- A year is read exactly from its loose form. -/
theorem searchYear?_eq_some_iff {cs : List Char} {year : Int} :
    searchYear? cs = some year ↔ IsLooseYear cs year := by
  rw [searchYear?_eq_some_iff_denotes]
  constructor
  · rintro ⟨hdenotes, hlen⟩
    exact ⟨cs.takeWhile isBlank, _, List.takeWhile_append_dropWhile.symm, List.all_takeWhile,
      hdenotes, hlen⟩
  · rintro ⟨blanks, numeral, rfl, hblanks, hdenotes, hlen⟩
    have hstart : (blanks ++ numeral).dropWhile isBlank = numeral := by
      apply dropWhile_isBlank_append hblanks
      intro c hc
      cases hdenotes with
      | unsigned hrun =>
        rw [← List.append_nil numeral] at hc
        exact isBlank_of_isDigit (isDigit_of_mem_head? hrun hc)
      | plus _ => exact Option.some.inj hc ▸ by decide
      | minus _ => exact Option.some.inj hc ▸ by decide
    rw [hstart]
    exact ⟨hdenotes, hlen⟩

/-! ### The loose and the full form -/

/-- Day, month and year of a date stand between dots, each written in the given way. -/
def IsDotted (number : List Char → Nat → Prop) (writtenYear : List Char → Int → Prop)
    (cs : List Char) (date : Date) : Prop :=
  ∃ day month year, cs = day ++ '.' :: (month ++ '.' :: year) ∧
    number day date.day ∧ number month date.month ∧ writtenYear year date.year

/-- A date in loose form: blanks may stand before each number, day and month have one digit or two,
and the year has up to four digits, or a sign and any number of digits. -/
def IsLooseForm (cs : List Char) (date : Date) : Prop :=
  IsDotted (IsLooseNumber 2) IsLooseYear cs date

/-- A number in so many digits. -/
def IsNumeralOf (width : Nat) (cs : List Char) (n : Nat) : Prop := IsRunOf cs n ∧ cs.length = width

/-- A date in full form: two digits, a dot, two digits, a dot and four digits, which name its day,
month and year. -/
def IsFullForm (cs : List Char) (date : Date) : Prop :=
  IsDotted (IsNumeralOf 2) (fun year n ↦ ∃ k : Nat, n = k ∧ IsNumeralOf 4 year k) cs date

/-- A term is read as a date exactly if it has the date in loose form. -/
theorem searchDate?_eq_some_iff {cs : List Char} {date : Date} :
    searchDate? cs = some date ↔ IsLooseForm cs date := by
  have hdot : ('.').isDigit = false := by decide
  constructor
  · intro h
    unfold searchDate? at h
    split at h
    · next day behindDay hday =>
      split at h
      · next month behindMonth hmonth =>
        obtain ⟨year, hyear, hdate⟩ := Option.bind_eq_some_iff.1 h
        obtain ⟨rfl, rfl, rfl⟩ := Date.ofCivil?_eq_some_iff.1 hdate
        obtain ⟨dayField, rfl, hdayField⟩ := (leadingNumber?_eq_some_iff hdot).1 hday
        obtain ⟨monthField, rfl, hmonthField⟩ := (leadingNumber?_eq_some_iff hdot).1 hmonth
        exact ⟨dayField, monthField, behindMonth, rfl, hdayField, hmonthField,
          searchYear?_eq_some_iff.1 hyear⟩
      · exact absurd h (by simp)
    · exact absurd h (by simp)
  · rintro ⟨day, month, year, rfl, hday, hmonth, hyear⟩
    have hreadDay : leadingNumber? 2 (day ++ '.' :: (month ++ '.' :: year)) =
        some (date.day, '.' :: (month ++ '.' :: year)) :=
      (leadingNumber?_eq_some_iff hdot).2 ⟨day, rfl, hday⟩
    have hreadMonth : leadingNumber? 2 (month ++ '.' :: year) = some (date.month, '.' :: year) :=
      (leadingNumber?_eq_some_iff hdot).2 ⟨month, rfl, hmonth⟩
    simp only [searchDate?, hreadDay, hreadMonth, searchYear?_eq_some_iff.2 hyear,
      Option.bind_some]
    exact Date.ofCivil?_eq_some_iff.2 ⟨rfl, rfl, rfl⟩

/-- An empty term names no date. -/
theorem searchDate?_nil : searchDate? [] = none := rfl

/-- A full form is a loose one. -/
theorem IsFullForm.isLooseForm {cs : List Char} {date : Date} (h : IsFullForm cs date) :
    IsLooseForm cs date := by
  obtain ⟨day, month, year, rfl, ⟨hday, hdayLen⟩, ⟨hmonth, hmonthLen⟩, n, hn, hyear, hyearLen⟩ := h
  refine ⟨day, month, year, rfl, ⟨[], day, rfl, rfl, hday, hdayLen.le⟩,
    ⟨[], month, rfl, rfl, hmonth, hmonthLen.le⟩, [], year, rfl, rfl, ?_, .inl hyearLen.le⟩
  rw [hn]
  exact .unsigned hyear

/-- The characters of a full form: digits and dots. -/
def IsPlain (cs : List Char) : Prop := ∀ c ∈ cs, c.isDigit = true ∨ c = '.'

private theorem IsPlain.isBlank_eq_false {cs : List Char} (h : IsPlain cs) {c : Char}
    (hc : c ∈ cs) : isBlank c = false := by
  rcases h c hc with hdigit | rfl
  · exact isBlank_of_isDigit hdigit
  · decide

private theorem IsPlain.eq_nil_of_allBlank {cs : List Char} (h : IsPlain cs)
    (hblank : allBlank cs = true) : cs = [] := by
  rw [List.eq_nil_iff_forall_not_mem]
  intro c hc
  have hnone := h.isBlank_eq_false hc
  rw [List.all_eq_true.1 hblank c hc] at hnone
  exact absurd hnone (by simp)

private theorem IsLooseNumber.isRunOf {most n : Nat} {cs : List Char} (h : IsLooseNumber most cs n)
    (hplain : IsPlain cs) : IsRunOf cs n ∧ cs.length ≤ most := by
  obtain ⟨blanks, run, rfl, hblanks, hrun, hlen⟩ := h
  have hnone := IsPlain.eq_nil_of_allBlank (List.forall_mem_append.1 hplain).1 hblanks
  rw [hnone, List.nil_append]
  exact ⟨hrun, hlen⟩

private theorem IsLooseYear.isRunOf {year : Int} {cs : List Char} (h : IsLooseYear cs year)
    (hplain : IsPlain cs) : ∃ k : Nat, year = k ∧ IsRunOf cs k ∧ cs.length ≤ 4 := by
  obtain ⟨blanks, numeral, rfl, hblanks, hdenotes, hlen⟩ := h
  obtain ⟨hplainBlanks, hplain⟩ := List.forall_mem_append.1 hplain
  rw [IsPlain.eq_nil_of_allBlank hplainBlanks hblanks, List.nil_append]
  cases hdenotes with
  | @unsigned _ n hrun =>
    refine ⟨n, rfl, hrun, hlen.resolve_right ?_⟩
    rintro (hsign | hsign)
    · exact absurd (hrun.digits _ (List.mem_of_mem_head? hsign)) (by decide)
    · exact absurd (hrun.digits _ (List.mem_of_mem_head? hsign)) (by decide)
  | plus _ => exact absurd (hplain '+' List.mem_cons_self) (by decide)
  | minus _ => exact absurd (hplain '-' List.mem_cons_self) (by decide)

/-- The full form is the loose form in ten characters that are digits and dots. -/
theorem isFullForm_iff_isLooseForm {cs : List Char} {date : Date} :
    IsFullForm cs date ↔ IsLooseForm cs date ∧ cs.length = 10 ∧ IsPlain cs := by
  constructor
  · intro h
    refine ⟨h.isLooseForm, ?_⟩
    obtain ⟨day, month, year, rfl, ⟨hday, hdayLen⟩, ⟨hmonth, hmonthLen⟩, n, _, hyear, hyearLen⟩ := h
    constructor
    · simp only [List.length_append, List.length_cons]
      omega
    · intro c hc
      rw [List.mem_append, List.mem_cons, List.mem_append, List.mem_cons] at hc
      rcases hc with hc | hc | hc | hc | hc
      · exact .inl (hday.digits c hc)
      · exact .inr hc
      · exact .inl (hmonth.digits c hc)
      · exact .inr hc
      · exact .inl (hyear.digits c hc)
  · rintro ⟨⟨day, month, year, rfl, hday, hmonth, hyear⟩, hlen, hplain⟩
    obtain ⟨hplainDay, hplain⟩ := List.forall_mem_append.1 hplain
    obtain ⟨hplainMonth, hplain⟩ := List.forall_mem_append.1 (List.forall_mem_cons.1 hplain).2
    obtain ⟨hdayRun, hdayLen⟩ := hday.isRunOf hplainDay
    obtain ⟨hmonthRun, hmonthLen⟩ := hmonth.isRunOf hplainMonth
    obtain ⟨n, hn, hyearRun, hyearLen⟩ := hyear.isRunOf (List.forall_mem_cons.1 hplain).2
    -- No number is longer than its width, so in ten characters none is shorter either.
    simp only [List.length_append, List.length_cons] at hlen
    exact ⟨day, month, year, rfl, ⟨hdayRun, by omega⟩, ⟨hmonthRun, by omega⟩, n, hn, hyearRun,
      by omega⟩

/-- The loose form of a text is the full one for every date exactly if the text has ten characters
that are digits and dots, or has no date in loose form. -/
theorem forall_isLooseForm_iff_isFullForm {cs : List Char} :
    (∀ date, IsLooseForm cs date ↔ IsFullForm cs date) ↔
      (cs.length = 10 ∧ IsPlain cs) ∨ ∀ date, ¬IsLooseForm cs date := by
  simp only [isFullForm_iff_isLooseForm]
  constructor
  · intro h
    by_cases hloose : ∃ date, IsLooseForm cs date
    · obtain ⟨date, hdate⟩ := hloose
      exact .inl ((h date).1 hdate).2
    · exact .inr (not_exists.1 hloose)
  · rintro (hshape | hnone) date
    · exact (and_iff_left hshape).symm
    · exact iff_of_false (hnone date) fun h ↦ hnone date h.1

namespace Date

/-- The search form of a date: day, month and year, padded with zeros, between dots. -/
def searchChars (date : Date) : List Char :=
  zeroPadded 2 date.day ++ '.' :: (zeroPadded 2 date.month ++ '.' :: zeroPadded 4 date.year.toNat)

/-- The search form of a date as a text. -/
def searchText (date : Date) : String := String.ofList date.searchChars

private theorem isFullForm_searchChars {date : Date} (h : date.HasFourDigitYear) :
    IsFullForm date.searchChars date :=
  ⟨_, _, _, rfl, ⟨isRunOf_zeroPadded 2 date.day, length_zeroPadded (by decide) date.day_lt_hundred⟩,
    ⟨isRunOf_zeroPadded 2 date.month, length_zeroPadded (by decide) date.month_lt_hundred⟩,
    date.year.toNat, (Int.toNat_of_nonneg h.1).symm, isRunOf_zeroPadded 4 date.year.toNat,
    length_zeroPadded (by decide) h.toNat_lt⟩

private theorem searchDate?_searchChars {date : Date} (h : date.HasFourDigitYear) :
    searchDate? date.searchChars = some date :=
  searchDate?_eq_some_iff.2 (isFullForm_searchChars h).isLooseForm

/-- Blanks around the search form do not count. -/
theorem searchDate?_trim {date : Date} (h : date.HasFourDigitYear) {before after : String}
    (hbefore : allBlank before.toList = true) (hafter : allBlank after.toList = true) :
    searchDate? (trim (before ++ date.searchText ++ after).toList) = some date := by
  have hplain := (isFullForm_iff_isLooseForm.1 (isFullForm_searchChars h)).2.2
  rw [String.toList_append, String.toList_append, searchText, String.toList_ofList,
    trim_append hbefore hafter, trim_eq_self, searchDate?_searchChars h]
  intro c hc
  exact hplain.isBlank_eq_false hc

end Date

end Agenda.Calendar
