import Mathlib.Data.Prod.Lex
import Mathlib.Data.String.Basic
import Agenda.Proofs.Calendar.SearchDate
import Agenda.Proofs.Store.Frame
import Agenda.Proofs.Store.StoredDate
import Agenda.Proofs.Text.Like
import Agenda.Store.Query

/-!
# The order and the extent of a listing

A listing is the first part of all the tasks that match a search, in the order of their date texts
and ids. Where every date is in stored form, that is the order of the days, and a search for a day
finds the tasks of that day (`Store.listing_by_day`).
-/

namespace Agenda

open Calendar

/-! ### The order of a listing -/

namespace Task

variable {a b c : Task}

/-- Tasks are listed in the lexicographic order of date text and id. -/
theorem listedBefore_eq_true_iff :
    a.listedBefore b = true ↔ toLex (a.date, a.id) ≤ toLex (b.date, b.id) := by
  rw [Prod.Lex.toLex_le_toLex, listedBefore, Bool.or_eq_true, Bool.and_eq_true, decide_eq_true_eq,
    decide_eq_true_eq, beq_iff_eq]

/-- The order of a listing is transitive. -/
theorem listedBefore_trans (hab : a.listedBefore b = true) (hbc : b.listedBefore c = true) :
    a.listedBefore c = true := by
  rw [listedBefore_eq_true_iff] at *
  exact le_trans hab hbc

/-- Any two tasks can be listed in one order or the other. -/
theorem listedBefore_total (a b : Task) : (a.listedBefore b || b.listedBefore a) = true := by
  rw [Bool.or_eq_true, listedBefore_eq_true_iff, listedBefore_eq_true_iff]
  exact le_total _ _

/-- Both tasks have a date that can be read, and the first has the earlier day, or the same day and
the smaller id. -/
def DueBefore (a b : Task) : Prop :=
  ∃ day other, Date.ofText? a.date = some day ∧ Date.ofText? b.date = some other ∧
    (day < other ∨ day = other ∧ a.id < b.id)

private theorem dueBefore_of_listedBefore (hlisted : a.listedBefore b = true) (hid : a.id ≠ b.id)
    (ha : (Date.ofText? a.date).isSome) (hb : (Date.ofText? b.date).isSome) : a.DueBefore b := by
  obtain ⟨day, hday⟩ := Option.isSome_iff_exists.1 ha
  obtain ⟨other, hother⟩ := Option.isSome_iff_exists.1 hb
  obtain ⟨htext, hyear⟩ := Date.ofText?_eq_some_iff.1 hday
  obtain ⟨htext', hyear'⟩ := Date.ofText?_eq_some_iff.1 hother
  refine ⟨day, other, hday, hother, ?_⟩
  rw [listedBefore_eq_true_iff, Prod.Lex.toLex_le_toLex] at hlisted
  rcases hlisted with hlt | ⟨heq, hle⟩
  · apply Or.inl
    rwa [htext, htext', Date.text_lt_text_iff hyear hyear'] at hlt
  · apply Or.inr
    change a.date = b.date at heq
    rw [heq, hother] at hday
    exact ⟨(Option.some.inj hday).symm, lt_of_le_of_ne hle hid⟩

end Task

namespace Criterion

/-- No search picks every task. -/
theorem ofSearch_none : ofSearch none = all := rfl

/-- A blank term is no search. -/
theorem ofSearch_of_allBlank {term : String} (h : Text.allBlank term.toList = true) :
    ofSearch (some term) = all := by
  rw [ofSearch, Option.map_some, (Text.trim_eq_nil_iff _).2 h]

/-- A term that is not blank stands for a date or for a pattern around it. -/
theorem ofSearch_of_trim_eq {search : String} {term : List Char}
    (hterm : Text.trim search.toList = term) (hne : term ≠ []) :
    ofSearch (some search) =
      match searchDate? term with
      | some date => onDate date.text
      | none => isLike ('%' :: term ++ ['%']) := by
  rw [ofSearch, Option.map_some, hterm]
  cases term with
  | nil => exact absurd rfl hne
  | cons c cs => rfl

/-- A term that reads as a date picks the tasks under the text of that date. -/
theorem ofSearch_of_searchDate?_eq_some {search : String} {date : Date}
    (h : searchDate? (Text.trim search.toList) = some date) :
    ofSearch (some search) = onDate date.text := by
  have hne : Text.trim search.toList ≠ [] := by
    intro hnil
    rw [hnil, searchDate?_nil] at h
    exact absurd h (by simp)
  rw [ofSearch_of_trim_eq rfl hne, h]

/-- The search is for a term that names no date and has too many bytes for a pattern. -/
def IsTooLong (search : Option String) : Prop :=
  ∃ text ∈ search, searchDate? (Text.trim text.toList) = none ∧
    Text.longestTerm < Text.byteCount (Text.trim text.toList)

/-- A criterion is too long if it comes of a search for such a term. -/
theorem isTooLong_ofSearch_iff {search : Option String} :
    (ofSearch search).isTooLong = true ↔ IsTooLong search := by
  unfold IsTooLong
  cases search with
  | none => simp [ofSearch_none, isTooLong]
  | some text =>
    by_cases hne : Text.trim text.toList = []
    · rw [ofSearch_of_allBlank ((Text.trim_eq_nil_iff _).1 hne)]
      simp [isTooLong, hne, Text.byteCount]
    · rw [ofSearch_of_trim_eq rfl hne]
      cases hdate : searchDate? (Text.trim text.toList) with
      | some date => simp [isTooLong, hdate]
      | none => simp [isTooLong, hdate, ← Text.longestPattern_lt_iff]

end Criterion

namespace Store

variable {store : Store} {search : Option String} {limit : Nat} {tasks : List Task}

/-! ### What is listed -/

/-- The tasks that a search picks, in the order of the store. -/
def matching (store : Store) (search : Option String) : List Task :=
  store.rows.filter (Criterion.ofSearch search).holds

/-- The tasks that a search picks, in the order of a listing. -/
def sorted (store : Store) (search : Option String) : List Task :=
  (store.matching search).mergeSort Task.listedBefore

/-- A listing is refused for one reason only: the term is too long, and there is a task to compare
it with. -/
theorem list_eq_error_iff {e : Error} :
    store.list search limit = .error e ↔
      e = .patternTooLong ∧ Criterion.IsTooLong search ∧ store.rows ≠ [] ∧ limit ≠ 0 := by
  rw [list, ← Criterion.isTooLong_ofSearch_iff]
  split
  · next h => simp [h, eq_comm]
  · next h => simp [h]

/-- Any other listing is the first part of the tasks in order. -/
theorem list_eq_ok_iff {tasks : List Task} :
    store.list search limit = .ok tasks ↔
      ¬(Criterion.IsTooLong search ∧ store.rows ≠ [] ∧ limit ≠ 0) ∧
        tasks = (store.sorted search).take limit := by
  rw [list, ← Criterion.isTooLong_ofSearch_iff]
  split
  · next h => simp [h]
  · next h =>
    rw [Except.ok.injEq, and_iff_right h, eq_comm]
    rfl

/-- A search whose criterion is not too long gives a listing. -/
theorem exists_list_eq_ok (h : (Criterion.ofSearch search).isTooLong = false) (limit : Nat) :
    ∃ tasks, store.list search limit = .ok tasks := by
  refine ⟨_, list_eq_ok_iff.2 ⟨?_, rfl⟩⟩
  rw [← Criterion.isTooLong_ofSearch_iff, h]
  simp

/-- Sorting keeps the tasks. -/
theorem sorted_perm (store : Store) (search : Option String) :
    (store.sorted search).Perm (store.matching search) :=
  List.mergeSort_perm _ _

/-- Only rows are listed. -/
theorem mem_rows_of_mem_sorted {row : Task} (h : row ∈ store.sorted search) : row ∈ store.rows :=
  (List.mem_filter.1 ((store.sorted_perm search).mem_iff.1 h)).1

/-- In a store that comes about no two rows share an id. -/
theorem Reachable.nodup_ids (h : store.Reachable) : store.ids.Nodup :=
  h.wellKept.ascending.imp fun hlt ↦ ne_of_lt hlt

private theorem pairwise_id_ne_sorted (hids : store.ids.Nodup) (search : Option String) :
    (store.sorted search).Pairwise fun a b ↦ a.id ≠ b.id := by
  have hpicked : ((store.matching search).map Task.id).Nodup :=
    hids.sublist (List.filter_sublist.map Task.id)
  have hsorted := ((store.sorted_perm search).map Task.id).nodup_iff.2 hpicked
  exact List.pairwise_map.1 hsorted

/-- If no two rows share an id, no task is listed twice. -/
theorem nodup_sorted (hids : store.ids.Nodup) (search : Option String) :
    (store.sorted search).Nodup := by
  apply (pairwise_id_ne_sorted hids search).imp
  intro a b hid heq
  exact hid (congrArg Task.id heq)

/-- If every date is in stored form and no two rows share an id, the tasks are in the order of day
and id. -/
theorem pairwise_dueBefore_sorted (hids : store.ids.Nodup) (hdates : store.HasReadableDates)
    (search : Option String) : (store.sorted search).Pairwise Task.DueBefore := by
  have hlisted : (store.sorted search).Pairwise fun a b ↦ a.listedBefore b = true := by
    rw [sorted]
    apply List.pairwise_mergeSort
    · intro a b c
      exact Task.listedBefore_trans
    · exact Task.listedBefore_total
  have hboth := hlisted.and (pairwise_id_ne_sorted hids search)
  apply hboth.imp_of_mem
  intro a b ha hb ⟨hab, hid⟩
  apply Task.dueBefore_of_listedBefore hab hid
  · exact hdates a (mem_rows_of_mem_sorted ha)
  · exact hdates b (mem_rows_of_mem_sorted hb)

/-- A listing has as many tasks as match, up to the limit. -/
theorem length_of_list (h : store.list search limit = .ok tasks) :
    tasks.length = min limit (store.matching search).length := by
  rw [(list_eq_ok_iff.1 h).2, List.length_take, (store.sorted_perm search).length_eq]

/-- A limit that is not reached leaves out no task. -/
theorem perm_matching_of_list (h : store.list search limit = .ok tasks)
    (hroom : (store.matching search).length ≤ limit) : tasks.Perm (store.matching search) := by
  rw [(list_eq_ok_iff.1 h).2, List.take_of_length_le]
  · exact store.sorted_perm search
  · rwa [(store.sorted_perm search).length_eq]

/-- With a smaller limit there is a listing as well, the first part of the one with the larger
limit. -/
theorem exists_prefix_of_list {larger : Nat} (h : store.list search larger = .ok tasks)
    (hle : limit ≤ larger) :
    ∃ first, store.list search limit = .ok first ∧ first <+: tasks := by
  obtain ⟨hfits, rfl⟩ := list_eq_ok_iff.1 h
  refine ⟨_, list_eq_ok_iff.2 ⟨?_, rfl⟩, List.take_prefix_take_left hle⟩
  rintro ⟨hlong, hrows, hlimit⟩
  exact hfits ⟨hlong, hrows, by omega⟩

/-! ### Searches for every task and for a day -/

/-- Every task matches where nothing is looked for. -/
theorem matching_of_ofSearch_eq_all (h : Criterion.ofSearch search = .all) :
    store.matching search = store.rows := by
  rw [matching, h]
  exact List.filter_true _

/-- The search form of a day, also between blanks, matches the tasks of that day. -/
theorem matching_searchText {day : Date} (h : day.HasFourDigitYear) {before after : String}
    (hbefore : Text.allBlank before.toList = true) (hafter : Text.allBlank after.toList = true) :
    store.matching (some (before ++ day.searchText ++ after)) =
      store.rows.filter fun row ↦ Date.ofText? row.date = some day := by
  rw [matching,
    Criterion.ofSearch_of_searchDate?_eq_some (Date.searchDate?_trim h hbefore hafter)]
  apply List.filter_congr
  intro row _
  rw [Criterion.holds, Bool.eq_iff_iff, beq_iff_eq, decide_eq_true_eq, Date.ofText?_eq_some_iff]
  exact (and_iff_left h).symm

/-! ### Listings of stores with dates in stored form -/

/-- What every listing of a store does in which all dates are in stored form and no two rows share
an id. It is refused exactly for a term that names no date and is too long, if there are tasks and
the limit is not zero. Otherwise the tasks are in strictly increasing order of day and id, so none
is there twice. A smaller limit gives the first part of what a larger one gives; the tasks that
match are there up to the limit, and all of them where it is not reached. Without a search, and with
a blank one, every row matches, and with the search form of a day, also between blanks, exactly the
rows of that day; none of these is ever refused. -/
theorem listing_by_day (store : Store) (hids : store.ids.Nodup) (hdates : store.HasReadableDates) :
    (∀ search limit e, store.list search limit = .error e ↔
      e = .patternTooLong ∧ Criterion.IsTooLong search ∧ store.rows ≠ [] ∧ limit ≠ 0) ∧
    (∀ search limit tasks, store.list search limit = .ok tasks →
      tasks.Pairwise Task.DueBefore ∧ tasks.Nodup ∧
      tasks.length = min limit (store.matching search).length ∧
      ((store.matching search).length ≤ limit → tasks.Perm (store.matching search))) ∧
    (∀ search smaller larger tasks, smaller ≤ larger → store.list search larger = .ok tasks →
      ∃ first, store.list search smaller = .ok first ∧ first <+: tasks) ∧
    (store.matching none = store.rows ∧ ∀ limit, ∃ tasks, store.list none limit = .ok tasks) ∧
    (∀ term, Text.allBlank term.toList = true → store.matching (some term) = store.rows ∧
      ∀ limit, ∃ tasks, store.list (some term) limit = .ok tasks) ∧
    ∀ day : Date, day.HasFourDigitYear → ∀ before after,
      Text.allBlank before.toList = true → Text.allBlank after.toList = true →
        store.matching (some (before ++ day.searchText ++ after)) =
            store.rows.filter (fun row ↦ Date.ofText? row.date = some day) ∧
          ∀ limit, ∃ tasks, store.list (some (before ++ day.searchText ++ after)) limit =
            .ok tasks := by
  refine ⟨?_, ?_, ?_, ?_, ?_, ?_⟩
  · intro search limit e
    exact list_eq_error_iff
  · intro search limit tasks h
    have hpart : tasks.Sublist (store.sorted search) := by
      rw [(list_eq_ok_iff.1 h).2]
      exact List.take_sublist limit _
    exact ⟨(pairwise_dueBefore_sorted hids hdates search).sublist hpart,
      (nodup_sorted hids search).sublist hpart, length_of_list h, perm_matching_of_list h⟩
  · intro search smaller larger tasks hle h
    exact exists_prefix_of_list h hle
  · exact ⟨matching_of_ofSearch_eq_all Criterion.ofSearch_none, exists_list_eq_ok rfl⟩
  · intro term hterm
    have hall := Criterion.ofSearch_of_allBlank hterm
    exact ⟨matching_of_ofSearch_eq_all hall, exists_list_eq_ok (by rw [hall]; rfl)⟩
  · intro day hday before after hbefore hafter
    have hdate :=
      Criterion.ofSearch_of_searchDate?_eq_some (Date.searchDate?_trim hday hbefore hafter)
    exact ⟨matching_searchText hday hbefore hafter, exists_list_eq_ok (by rw [hdate]; rfl)⟩

/-- Three tasks are added, the last two for one day. -/
def threeTasks : Store :=
  empty.afterAll
    [.add { title := "Dentist", date := "20240308" } (.civil 2024 1 27 (by decide)),
      .add { title := "Pay the rent", repeatText := "m 27" } (.civil 2024 1 27 (by decide)),
      .add { title := "Run", repeatText := "d 1" } (.civil 2024 1 27 (by decide))]

/-- The three tasks are listed in order, and the two for one day are found under that day. -/
theorem listing_by_day_threeTasks :
    threeTasks.ids.Nodup ∧ threeTasks.HasReadableDates ∧
    (∃ all first, threeTasks.list none 50 = .ok all ∧ threeTasks.list none 2 = .ok first ∧
      all.Pairwise Task.DueBefore ∧ all.length = 3 ∧ first <+: all ∧ first.length = 2) ∧
    (threeTasks.matching (some " 27.01.2024 ")).map Task.title = ["Pay the rent", "Run"] := by
  have hids : threeTasks.ids.Nodup := Reachable.nodup_ids ⟨_, rfl⟩
  have hdates : threeTasks.HasReadableDates := by decide
  obtain ⟨-, hlisted, hprefix, ⟨-, hnone⟩, -, hday⟩ := listing_by_day threeTasks hids hdates
  refine ⟨hids, hdates, ?_, ?_⟩
  · obtain ⟨all, hall⟩ := hnone 50
    obtain ⟨first, hfirst, hpart⟩ := hprefix none 2 50 all (by decide) hall
    obtain ⟨horder, -, hextent, -⟩ := hlisted none 50 all hall
    exact ⟨all, first, hall, hfirst, horder, hextent, hpart, (hlisted none 2 first hfirst).2.2.1⟩
  · have hmatching :=
      (hday (.civil 2024 1 27 (by decide)) (by decide) " " " " (by decide) (by decide)).1
    have hterm : " " ++ (Date.civil 2024 1 27 (by decide)).searchText ++ " " = " 27.01.2024 " := by
      decide
    rw [hterm] at hmatching
    rw [hmatching]
    decide

private theorem isTooLong_replicate {n : Nat} (h : Text.longestTerm < n) :
    Criterion.IsTooLong (some (String.ofList (List.replicate n 'a'))) := by
  refine ⟨_, rfl, ?_⟩
  have hblank : ∀ c ∈ List.replicate n 'a', Text.isBlank c = false := by
    intro c hc
    rw [List.eq_of_mem_replicate hc]
    decide
  rw [String.toList_ofList, Text.trim_eq_self hblank, Text.byteCount_replicate]
  constructor
  · obtain ⟨m, rfl⟩ : ∃ m, n = m + 1 := ⟨n - 1, by omega⟩
    rfl
  · change Text.longestTerm < n * 1
    rwa [Nat.mul_one]

/-- A term one byte too long. -/
def longTerm : String := String.ofList (List.replicate 49999 'a')

/-- A search for the long term is refused, so there is no listing of the tasks that match, though
none does. -/
theorem not_list_longTerm :
    threeTasks.ids.Nodup ∧ threeTasks.HasReadableDates ∧
    threeTasks.list (some longTerm) 50 = .error .patternTooLong ∧
    ¬∃ tasks, threeTasks.list (some longTerm) 50 = .ok tasks ∧
      tasks.length = min 50 (threeTasks.matching (some longTerm)).length := by
  have hlong : Criterion.IsTooLong (some longTerm) := isTooLong_replicate (by decide)
  have hrefused : threeTasks.list (some longTerm) 50 = .error .patternTooLong :=
    list_eq_error_iff.2 ⟨rfl, hlong, by decide, by decide⟩
  refine ⟨Reachable.nodup_ids ⟨_, rfl⟩, by decide, hrefused, ?_⟩
  rintro ⟨tasks, hlisted, -⟩
  rw [hrefused] at hlisted
  cases hlisted

end Store

end Agenda
