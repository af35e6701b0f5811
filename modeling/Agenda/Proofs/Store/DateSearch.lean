import Agenda.Proofs.Store.Listing

/-!
# Searching for a day

A term picks the tasks of a day exactly if it has that day in a loose form; every other term is
looked for in titles and comments. The loose form takes in more than the full one, so a version
number may be read as a date, and the tasks that mention it are then not found
(`Criterion.ofSearch_by_form`).
-/

namespace Agenda

open Calendar

namespace Criterion

variable {search : String} {date : Date}

/-- A term picks the tasks of a day exactly if it has the day in loose form. -/
theorem ofSearch_eq_onDate_iff :
    ofSearch (some search) = onDate date.text ↔
      IsLooseForm (Text.trim search.toList) date := by
  rw [← searchDate?_eq_some_iff]
  constructor
  · intro h
    by_cases hne : Text.trim search.toList = []
    · rw [ofSearch_of_allBlank ((Text.trim_eq_nil_iff _).1 hne)] at h
      exact absurd h (by simp)
    · rw [ofSearch_of_trim_eq rfl hne] at h
      cases hread : searchDate? (Text.trim search.toList) with
      | none => simp [hread] at h
      | some found =>
        simp only [hread, onDate.injEq] at h
        rw [Date.text_injective h]
  · exact ofSearch_of_searchDate?_eq_some

/-- A term is looked for as a text exactly if it is not blank and has no day in loose form. -/
theorem ofSearch_eq_isLike_iff :
    ofSearch (some search) = isLike ('%' :: Text.trim search.toList ++ ['%']) ↔
      Text.trim search.toList ≠ [] ∧ ∀ date, ¬IsLooseForm (Text.trim search.toList) date := by
  by_cases hne : Text.trim search.toList = []
  · rw [ofSearch_of_allBlank ((Text.trim_eq_nil_iff _).1 hne)]
    simp [hne]
  · simp only [← searchDate?_eq_some_iff]
    rw [ofSearch_of_trim_eq rfl hne]
    cases searchDate? (Text.trim search.toList) with
    | none => simp [hne]
    | some found => simp

/-- What a text is taken for as a search term. It is read as a date exactly if it has the date in a
loose form, in which blanks may stand before each number, day and month have one digit or two, and
the year has up to four digits, or a sign and any number of digits. The dates that are read are
those of the full form, with two, two and four digits, exactly if the text has ten characters that
are digits and dots, or has no loose form. A search picks the tasks of a day exactly if its term,
without the blanks around it, has the day in loose form; it looks for the term as a text exactly if
this is not blank and has no loose form. -/
theorem ofSearch_by_form (search : String) :
    (∀ date, searchDate? search.toList = some date ↔ IsLooseForm search.toList date) ∧
    ((∀ date, searchDate? search.toList = some date ↔ IsFullForm search.toList date) ↔
      (search.toList.length = 10 ∧ ∀ c ∈ search.toList, c.isDigit = true ∨ c = '.') ∨
        ∀ date, ¬IsLooseForm search.toList date) ∧
    (∀ date : Date, ofSearch (some search) = onDate date.text ↔
      IsLooseForm (Text.trim search.toList) date) ∧
    (ofSearch (some search) = isLike ('%' :: Text.trim search.toList ++ ['%']) ↔
      Text.trim search.toList ≠ [] ∧ ∀ date, ¬IsLooseForm (Text.trim search.toList) date) := by
  refine ⟨?_, ?_, ?_, ofSearch_eq_isLike_iff⟩
  · intro date
    exact searchDate?_eq_some_iff
  · simp only [searchDate?_eq_some_iff]
    exact forall_isLooseForm_iff_isFullForm
  · intro date
    exact ofSearch_eq_onDate_iff

end Criterion

namespace Store

/-- A task is added that mentions a version. -/
def versionRun : List Operation :=
  [.add { title := "Upgrade to version 1.2.3" } (.civil 2024 2 7 (by decide))]

/-- The number of the version is not in full form but read as 1 February of the year 3, so a search
for it does not find the task. -/
theorem not_isFullForm_version :
    searchDate? "1.2.3".toList = some (.civil 3 2 1 (by decide)) ∧
    ¬IsFullForm "1.2.3".toList (.civil 3 2 1 (by decide)) ∧
    (empty.afterAll versionRun).rows.map Task.title = ["Upgrade to version 1.2.3"] ∧
    (empty.afterAll versionRun).list (some "1.2.3") 50 = .ok [] := by
  refine ⟨by decide, ?_, by decide, ?_⟩
  · intro h
    exact absurd (isFullForm_iff_isLooseForm.1 h).2.1 (by decide)
  · have hnone : (empty.afterAll versionRun).matching (some "1.2.3") = [] := by decide
    obtain ⟨tasks, hlist⟩ :
        ∃ tasks, (empty.afterAll versionRun).list (some "1.2.3") 50 = .ok tasks :=
      exists_list_eq_ok (by decide) 50
    have hlength := length_of_list hlist
    rw [hnone, List.length_nil, Nat.min_zero] at hlength
    rw [hlist, List.eq_nil_of_length_eq_zero hlength]

end Store

end Agenda
