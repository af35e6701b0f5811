import Agenda.Proofs.Store.Listing
import Agenda.Proofs.Text.Literal

/-!
# Searching titles and comments

A search that names no date picks the tasks in whose title or comment the term is found. The term is
put into a pattern as it is, so this is the same as containing the term exactly for terms without
special characters that are not too long for a pattern (`Store.text_search`).
-/

namespace Agenda

open Calendar

namespace Criterion

/-- A task is picked by a pattern around a term if the term is found in its title or comment. -/
theorem holds_isLike_iff {term : List Char} {task : Task} :
    (isLike ('%' :: term ++ ['%'])).holds task = true ↔
      Text.Finds term task.title.toList ∨ Text.Finds term task.comment.toList := by
  rw [holds, Bool.or_eq_true, Text.isLike_term_iff, Text.isLike_term_iff]

end Criterion

namespace Store

variable {store : Store} {search : Option String} {limit : Nat} {tasks : List Task}

/-- A limit that the rows fit leaves out no row that is picked. -/
theorem mem_of_list (h : store.list search limit = .ok tasks) (hroom : store.rows.length ≤ limit)
    {row : Task} :
    row ∈ tasks ↔ row ∈ store.rows ∧ (Criterion.ofSearch search).holds row = true := by
  have hfits : (store.matching search).length ≤ limit :=
    Nat.le_trans (List.length_filter_le _ _) hroom
  rw [(perm_matching_of_list h hfits).mem_iff, matching, List.mem_filter]

/-- No title or comment has a NUL. -/
def HasPlainTexts (store : Store) : Prop :=
  ∀ row ∈ store.rows, '\x00' ∉ row.title.toList ∧ '\x00' ∉ row.comment.toList

private theorem exists_reachable_of_title {title : String} (h : isTitle title = true)
    (hplain : '\x00' ∉ title.toList) :
    ∃ store : Store, store.Reachable ∧ store.HasPlainTexts ∧
      ∃ row, store.rows = [row] ∧ row.title = title ∧ row.comment = "" := by
  -- The task is added to the empty store, on any day.
  let today : Date := .civil 2024 1 26 (by decide)
  let row := empty.added { title := title } today.text
  have hdate : checkedDate today title "" "" = .ok today.text :=
    checkedDate_eq_ok_iff.2 ⟨h, normalizeDate_empty (Rule.parseOptional_eq_none_iff.2 rfl)⟩
  have hrows : (empty.afterAll [.add { title := title } today]).rows = [row] := by
    simp only [afterAll, List.foldl_cons, List.foldl_nil, after, add, hdate]
    rfl
  refine ⟨_, ⟨_, rfl⟩, ?_, row, hrows, rfl, rfl⟩
  intro other hother
  rw [hrows, List.mem_singleton] at hother
  rw [hother]
  exact ⟨hplain, List.not_mem_nil⟩

private theorem exists_reachable_of_not_isLiteral {term : List Char} (hne : term ≠ [])
    (h : ¬Text.IsLiteral term) :
    ∃ store : Store, store.Reachable ∧ store.HasPlainTexts ∧
      ∃ row ∈ store.rows, Text.Finds term row.title.toList ∧
        ¬(Text.Contains term row.title.toList ∨ Text.Contains term row.comment.toList) := by
  obtain ⟨text, hplain, ⟨c, hc, hblank⟩, hfound, hcontains⟩ := Text.exists_finds_not_contains h
  have htitle : isTitle (String.ofList text) = true := by
    rw [isTitle_eq_true_iff, String.toList_ofList]
    exact ⟨c, hc, hblank⟩
  obtain ⟨store, hreachable, hplainTexts, row, hrows, hrowTitle, hrowComment⟩ :=
    exists_reachable_of_title htitle (by rwa [String.toList_ofList])
  have hchars : row.title.toList = text := by rw [hrowTitle, String.toList_ofList]
  have hcomment : row.comment.toList = [] := by rw [hrowComment, String.toList_empty]
  refine ⟨store, hreachable, hplainTexts, row, ?_, ?_, ?_⟩
  · rw [hrows]
    exact List.mem_singleton_self row
  · rwa [hchars]
  · rw [hchars, hcomment]
    rintro (hinTitle | hinComment)
    · exact hcontains hinTitle
    · exact hne (Text.eq_nil_of_contains_nil hinComment)

/-! ### Searches for a term -/

private theorem list_eq_error_iff_of_term {text : String} {term : List Char}
    (hterm : Text.trim text.toList = term) (hdate : searchDate? term = none)
    (hroom : store.rows.length ≤ limit) {e : Error} :
    store.list (some text) limit = .error e ↔
      e = .patternTooLong ∧ Text.longestTerm < Text.byteCount term ∧ store.rows ≠ [] := by
  have hlong : Criterion.IsTooLong (some text) ↔ Text.longestTerm < Text.byteCount term := by
    simp [Criterion.IsTooLong, hterm, hdate]
  -- A limit with room for the rows is zero only if there are none.
  have hlimit : store.rows ≠ [] → limit ≠ 0 := by
    rintro hrows rfl
    exact hrows (List.eq_nil_of_length_eq_zero (Nat.le_zero.1 hroom))
  rw [list_eq_error_iff, hlong, and_iff_left_of_imp hlimit]

private theorem mem_of_list_of_term {text : String} {term : List Char}
    (hterm : Text.trim text.toList = term) (hne : term ≠ []) (hdate : searchDate? term = none)
    (hroom : store.rows.length ≤ limit) (h : store.list (some text) limit = .ok tasks)
    {row : Task} :
    row ∈ tasks ↔
      row ∈ store.rows ∧
        (Text.Finds term row.title.toList ∨ Text.Finds term row.comment.toList) := by
  rw [mem_of_list h hroom, Criterion.ofSearch_of_trim_eq hterm hne, hdate,
    Criterion.holds_isLike_iff]

private theorem exists_reachable_of_tooLong {text : String} {term : List Char}
    (hterm : Text.trim text.toList = term) (hdate : searchDate? term = none)
    (hlong : Text.longestTerm < Text.byteCount term) :
    ∃ store : Store, store.Reachable ∧ store.HasPlainTexts ∧
      store.list (some text) store.rows.length = .error .patternTooLong := by
  -- One task is enough for the pattern to be compared with something.
  obtain ⟨store, hreachable, hplain, row, hrows, -⟩ :=
    exists_reachable_of_title (show isTitle "Rent" = true by decide) (by decide)
  refine ⟨store, hreachable, hplain, ?_⟩
  exact (list_eq_error_iff_of_term hterm hdate (Nat.le_refl _)).2 ⟨rfl, hlong, by simp [hrows]⟩

/-- The listing of a search has exactly the rows whose title or comment contains the term, ASCII
letters compared without case. -/
def ListsContaining (store : Store) (text : String) (limit : Nat) (term : List Char) : Prop :=
  ∃ tasks, store.list (some text) limit = .ok tasks ∧
    ∀ row, row ∈ tasks ↔
      row ∈ store.rows ∧
        (Text.Contains term row.title.toList ∨ Text.Contains term row.comment.toList)

/-- What a search for a term that names no date finds, if the limit leaves room. It is refused
exactly if the term is too long for a pattern and there is a row; otherwise the listing has the rows
in whose title or comment the term is found. On all stores that come about without NUL in a title or
comment these are the rows that contain the term, ASCII letters compared without case, exactly if
the term has no special characters and is not too long. -/
theorem text_search {text : String} {term : List Char}
    (hterm : Text.trim text.toList = term) (hne : term ≠ []) (hdate : searchDate? term = none) :
    (∀ (store : Store) limit, store.rows.length ≤ limit →
      (∀ e, store.list (some text) limit = .error e ↔
        e = .patternTooLong ∧ Text.longestTerm < Text.byteCount term ∧ store.rows ≠ []) ∧
      ∀ tasks, store.list (some text) limit = .ok tasks → ∀ row,
        row ∈ tasks ↔
          row ∈ store.rows ∧
            (Text.Finds term row.title.toList ∨ Text.Finds term row.comment.toList)) ∧
    ((∀ store : Store, store.Reachable → store.HasPlainTexts →
        ∀ limit, store.rows.length ≤ limit → store.ListsContaining text limit term) ↔
      Text.IsLiteral term ∧ Text.byteCount term ≤ Text.longestTerm) := by
  refine ⟨?_, ?_, ?_⟩
  · intro store limit hroom
    exact ⟨fun e ↦ list_eq_error_iff_of_term hterm hdate hroom,
      fun tasks h row ↦ mem_of_list_of_term hterm hne hdate hroom h⟩
  · intro hall
    constructor
    · by_contra hliteral
      obtain ⟨store, hreachable, hplain, row, hrow, hfound, hcontains⟩ :=
        exists_reachable_of_not_isLiteral hne hliteral
      have hroom := Nat.le_refl store.rows.length
      obtain ⟨tasks, hlist, hmem⟩ := hall store hreachable hplain _ hroom
      have hlisted :=
        (mem_of_list_of_term hterm hne hdate hroom hlist).2 ⟨hrow, .inl hfound⟩
      exact hcontains ((hmem row).1 hlisted).2
    · by_contra hshort
      obtain ⟨store, hreachable, hplain, hrefused⟩ :=
        exists_reachable_of_tooLong hterm hdate (Nat.lt_of_not_le hshort)
      obtain ⟨tasks, hlist, -⟩ := hall store hreachable hplain _ (Nat.le_refl _)
      rw [hrefused] at hlist
      cases hlist
  · rintro ⟨hliteral, hshort⟩ store - hplain limit hroom
    cases hlist : store.list (some text) limit with
    | error e =>
      obtain ⟨-, hlong, -⟩ := (list_eq_error_iff_of_term hterm hdate hroom).1 hlist
      exact absurd hshort (Nat.not_le_of_lt hlong)
    | ok tasks =>
      refine ⟨tasks, hlist, fun row ↦ ?_⟩
      rw [mem_of_list_of_term hterm hne hdate hroom hlist]
      apply and_congr_right
      intro hrow
      obtain ⟨htitle, hcomment⟩ := hplain row hrow
      rw [Text.finds_iff_contains hliteral, Text.finds_iff_contains hliteral,
        Text.beforeNul_eq_self htitle, Text.beforeNul_eq_self hcomment]

/-- Where nobody has written a NUL, a search for the rent finds the tasks that mention it. -/
theorem text_search_rent :
    Text.trim " Rent".toList = "Rent".toList ∧ "Rent".toList ≠ [] ∧
    searchDate? "Rent".toList = none ∧
    ∀ store : Store, store.Reachable → store.HasPlainTexts →
      ∀ limit, store.rows.length ≤ limit →
        store.ListsContaining " Rent" limit "Rent".toList := by
  have hterm : Text.trim " Rent".toList = "Rent".toList := by decide
  have hne : "Rent".toList ≠ [] := by decide
  have hdate : searchDate? "Rent".toList = none := by decide
  exact ⟨hterm, hne, hdate, (text_search hterm hne hdate).2.2 ⟨by decide, by decide⟩⟩

/-- Two tasks are added; the title of the second has a per cent sign. -/
def percentRun : List Operation :=
  [.add { title := "Run 1000 steps" } (.civil 2024 2 5 (by decide)),
    .add { title := "Pay 100% of the rent" } (.civil 2024 2 5 (by decide))]

/-- A search for the per cent sign behind its number also finds the number in a longer one. -/
theorem not_contains_percentRun :
    (empty.afterAll percentRun).Reachable ∧
    Text.trim "100%".toList ≠ [] ∧ searchDate? (Text.trim "100%".toList) = none ∧
    (empty.afterAll percentRun).rows.length ≤ 50 ∧
    ¬(empty.afterAll percentRun).ListsContaining "100%" 50 "100%".toList := by
  have hroom : (empty.afterAll percentRun).rows.length ≤ 50 := by decide
  refine ⟨⟨percentRun, rfl⟩, by decide, by decide, hroom, ?_⟩
  rintro ⟨tasks, hlist, hmem⟩
  let run : Task :=
    { id := 1, date := "20240205", title := "Run 1000 steps", comment := "", repeatText := "" }
  have hlisted : run ∈ tasks := (mem_of_list hlist hroom).2 (by decide)
  exact absurd ((hmem run).1 hlisted).2 (by decide)

end Store

end Agenda
