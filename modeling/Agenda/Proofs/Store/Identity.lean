import Agenda.Proofs.Store.Basic

/-!
# The rows of a store and their ids

Every row has a title and a repeat rule that can be read, or none; the ids of the rows ascend and
have all been handed out (`Store.WellKept`). An id is handed out once: the additions of a run that
succeed get the numbers from one on, and a row under an id that was handed out earlier has been in
the store since (`Store.rows_of_run`).
-/

namespace Agenda

open Calendar

/-- A title is one that has a character which is no blank. -/
theorem isTitle_eq_true_iff {title : String} :
    isTitle title = true ↔ ∃ c ∈ title.toList, Text.isBlank c = false := by
  simp [isTitle, Text.allBlank]

/-- The task has a title, and a repeat rule that can be read or none. -/
def Task.IsValid (task : Task) : Prop :=
  isTitle task.title = true ∧
    (task.repeatText = "" ∨ ∃ rule, Rule.parse task.repeatText = .ok rule)

namespace Store

variable {store later : Store} {op : Operation}

private theorem isValid_of_checkedDate (task : Task) {today : Date} {date text : String}
    (h : checkedDate today task.title date task.repeatText = .ok text) (stored : String) :
    { task with date := stored }.IsValid := by
  obtain ⟨htitle, hdate⟩ := checkedDate_eq_ok_iff.1 h
  exact ⟨htitle, parse_of_normalizeDate hdate⟩

/-! ### The ids of the rows -/

/-- The ids of the rows, in order. -/
def ids (store : Store) : List Int := store.rows.map Task.id

/-- A row is replaced under its own id. -/
theorem id_ite_eq (task row : Task) : (if row.id = task.id then task else row).id = row.id := by
  split
  · next hid => exact hid.symm
  · rfl

/-- A replacement keeps the ids. -/
theorem ids_replace (store : Store) (task : Task) : (store.replace task).ids = store.ids := by
  unfold ids replace
  rw [List.map_map]
  exact List.map_congr_left fun row _ ↦ id_ite_eq task row

private theorem ids_remove_sublist (store : Store) (id : Int) :
    (store.remove id).ids.Sublist store.ids :=
  List.filter_sublist.map Task.id

/-! ### What every operation keeps -/

/-- The rows are valid, their ids ascend and have been handed out. -/
structure WellKept (store : Store) : Prop where
  valid : ∀ row ∈ store.rows, row.IsValid
  ascending : store.ids.Pairwise (· < ·)
  handedOut : ∀ id ∈ store.ids, 1 ≤ id ∧ id ≤ store.issued

/-- The store before any task is well kept. -/
theorem wellKept_empty : empty.WellKept where
  valid row hrow := absurd hrow (not_mem_rows_empty row)
  ascending := List.Pairwise.nil
  handedOut _ hid := absurd hid List.not_mem_nil

namespace WellKept

/-- A valid task under the next id may come to the end. -/
theorem append (h : store.WellKept) {task : Task} (hvalid : task.IsValid)
    (hid : task.id = store.nextId) :
    (⟨store.rows ++ [task], store.issued + 1⟩ : Store).WellKept where
  valid row hrow := by
    rcases List.mem_append.1 hrow with hrow | hrow
    · exact h.valid row hrow
    · rw [List.mem_singleton.1 hrow]
      exact hvalid
  ascending := by
    rw [ids, List.map_append, List.pairwise_append]
    refine ⟨h.ascending, List.pairwise_singleton _ _, fun a ha b hb ↦ ?_⟩
    have hle := (h.handedOut a ha).2
    rw [List.map_singleton, List.mem_singleton, hid] at hb
    rw [hb, nextId]
    omega
  handedOut id hmem := by
    rw [ids, List.map_append, List.mem_append] at hmem
    push_cast
    rcases hmem with hmem | hmem
    · have := h.handedOut id hmem
      omega
    · rw [List.map_singleton, List.mem_singleton, hid, nextId] at hmem
      omega

/-- A valid task may replace a row. -/
theorem replace (h : store.WellKept) {task : Task} (hvalid : task.IsValid) :
    (store.replace task).WellKept where
  valid row hrow := by
    rcases mem_rows_replace hrow with hrow | rfl
    · exact h.valid row hrow
    · exact hvalid
  ascending := by
    rw [ids_replace]
    exact h.ascending
  handedOut := by
    rw [ids_replace]
    exact h.handedOut

/-- A row may go. -/
theorem remove (h : store.WellKept) (id : Int) : (store.remove id).WellKept where
  valid row hrow := h.valid row (mem_rows_of_mem_remove hrow)
  ascending := h.ascending.sublist (ids_remove_sublist store id)
  handedOut other hmem := h.handedOut other ((ids_remove_sublist store id).subset hmem)

private theorem isValid_of_find? (h : store.WellKept) {id : Int} {task : Task}
    (hfind : store.find? id = some task) (date : String) : { task with date }.IsValid :=
  h.valid task (find?_eq_some hfind).1

end WellKept

/-- Every operation keeps a store well kept. -/
theorem Outcome.wellKept {result : Except Error Answer}
    (houtcome : Outcome store op result later) (h : store.WellKept) : later.WellKept := by
  cases houtcome with
  | refused => exact h
  | @added new today date hdate =>
    exact h.append (isValid_of_checkedDate (store.added new date) hdate date) rfl
  | @updated id change today current date hfind hdate =>
    exact h.replace (isValid_of_checkedDate (change.applyTo current) hdate date)
  | dated hdate hfind => exact h.replace (h.isValid_of_find? hfind _)
  | moved hfind hnext => exact h.replace (h.isValid_of_find? hfind _)
  | finished hfind hdone => exact h.remove _
  | removed hfind => exact h.remove _

/-- Every store that comes about is well kept. -/
theorem wellKept_afterAll (operations : List Operation) : (empty.afterAll operations).WellKept :=
  List.foldlRecOn operations after wellKept_empty fun store h op _ ↦
    (store.outcome op).wellKept h

/-! ### Handing out ids -/

/-- The task that an operation with this answer has added. -/
def Answer.addition? : Operation → Except Error Answer → Option Task
  | .add _ _, .ok (.stored task) => some task
  | _, _ => none

/-- The tasks that a run adds, in order. -/
def additions (store : Store) : List Operation → List Task
  | [] => []
  | op :: operations =>
    (Answer.addition? op (store.answer op)).toList ++ (store.after op).additions operations

/-- An addition takes the next id; any other operation hands out none and leaves no new one. -/
theorem Outcome.ids_cases {result : Except Error Answer} (h : Outcome store op result later) :
    (Answer.addition? op result = none ∧ later.issued = store.issued ∧ later.ids ⊆ store.ids) ∨
    ∃ task, Answer.addition? op result = some task ∧ task.id = store.nextId ∧
      later.issued = store.issued + 1 ∧ later.ids = store.ids ++ [task.id] := by
  cases h with
  | refused op e => exact .inl ⟨by cases op <;> rfl, rfl, List.Subset.refl _⟩
  | added hdate => exact .inr ⟨_, rfl, rfl, rfl, List.map_append⟩
  | updated hfind hdate => exact .inl ⟨rfl, rfl, by rw [ids_replace]; exact List.Subset.refl _⟩
  | dated hdate hfind => exact .inl ⟨rfl, rfl, by rw [ids_replace]; exact List.Subset.refl _⟩
  | moved hfind hnext => exact .inl ⟨rfl, rfl, by rw [ids_replace]; exact List.Subset.refl _⟩
  | finished hfind hdone => exact .inl ⟨rfl, rfl, (ids_remove_sublist store _).subset⟩
  | removed hfind => exact .inl ⟨rfl, rfl, (ids_remove_sublist store _).subset⟩

variable {operations : List Operation}

private theorem issued_afterAll (store : Store) (operations : List Operation) :
    (store.afterAll operations).issued = store.issued + (store.additions operations).length := by
  induction operations generalizing store with
  | nil => rfl
  | cons op operations ih =>
    change ((store.after op).afterAll operations).issued = _
    rw [ih, additions, List.length_append]
    rcases (store.outcome op).ids_cases with ⟨hnone, hissued, _⟩ | ⟨task, hsome, _, hissued, _⟩
    · rw [hnone, hissued]
      simp
    · rw [hsome, hissued, Option.toList_some, List.length_singleton]
      omega

private theorem id_of_additions_getElem? {n : Nat} {task : Task}
    (h : (store.additions operations)[n]? = some task) : task.id = store.issued + n + 1 := by
  induction operations generalizing store n with
  | nil => exact absurd h (by simp [additions])
  | cons op operations ih =>
    rw [additions] at h
    rcases (store.outcome op).ids_cases with
      ⟨hnone, hissued, _⟩ | ⟨first, hsome, hfirst, hissued, _⟩
    · rw [hnone] at h
      have := ih h
      omega
    · rw [hsome, Option.toList_some, List.singleton_append] at h
      cases n with
      | zero =>
        obtain rfl : first = task := by simpa using h
        rw [hfirst, nextId]
        omega
      | succ n =>
        rw [List.getElem?_cons_succ] at h
        have := ih h
        omega

private theorem mem_ids_of_mem_ids_afterAll {id : Int} (h : id ∈ (store.afterAll operations).ids)
    (hle : id ≤ store.issued) : id ∈ store.ids := by
  induction operations generalizing store with
  | nil => exact h
  | cons op operations ih =>
    rcases (store.outcome op).ids_cases with
      ⟨_, hissued, hsub⟩ | ⟨task, _, hid, hissued, hids⟩
    · exact hsub (ih h (by omega))
    · have hmem := ih h (by omega)
      rw [hids, List.mem_append, List.mem_singleton, hid, nextId] at hmem
      rcases hmem with hmem | hmem
      · exact hmem
      · omega

/-- The ids of the tasks that a run adds to the empty store are those that it has handed out. -/
theorem exists_additions_iff {id : Int} :
    (∃ task ∈ empty.additions operations, task.id = id) ↔
      1 ≤ id ∧ id ≤ (empty.afterAll operations).issued := by
  have hissued := issued_afterAll empty operations
  have hnone : empty.issued = 0 := rfl
  constructor
  · rintro ⟨task, hmem, rfl⟩
    obtain ⟨n, hn⟩ := List.mem_iff_getElem?.1 hmem
    have hid := id_of_additions_getElem? hn
    have hlt := (List.getElem?_eq_some_iff.1 hn).1
    omega
  · rintro ⟨hpos, hle⟩
    have hlt : id.toNat - 1 < (empty.additions operations).length := by omega
    have hid := id_of_additions_getElem? (List.getElem?_eq_getElem hlt)
    exact ⟨_, List.getElem_mem hlt, by omega⟩

/-- What every run from the empty store keeps. Each row has a title that is not blank and a repeat
rule that can be read or none, and no two rows share an id. The additions that succeed get the ids
from one on in order, every id of a row is one of these, and a row under an id that was handed out
in an earlier part of the run was in the store after that part. -/
theorem rows_of_run (operations : List Operation) :
    (∀ row ∈ (empty.afterAll operations).rows,
      (∃ c ∈ row.title.toList, Text.isBlank c = false) ∧
      (row.repeatText = "" ∨ ∃ rule, Rule.parse row.repeatText = .ok rule)) ∧
    ((empty.afterAll operations).rows.map Task.id).Nodup ∧
    (∀ (n : Nat) task, (empty.additions operations)[n]? = some task → task.id = n + 1) ∧
    (∀ row ∈ (empty.afterAll operations).rows,
      ∃ task ∈ empty.additions operations, task.id = row.id) ∧
    ∀ earlier later, operations = earlier ++ later →
      ∀ task ∈ empty.additions earlier, ∀ row ∈ (empty.afterAll operations).rows,
        row.id = task.id → ∃ old ∈ (empty.afterAll earlier).rows, old.id = row.id := by
  have hkept := wellKept_afterAll operations
  refine ⟨fun row hrow ↦ ?_, hkept.ascending.imp fun hlt ↦ ne_of_lt hlt, fun n task hn ↦ ?_,
    fun row hrow ↦ ?_, ?_⟩
  · obtain ⟨htitle, hrule⟩ := hkept.valid row hrow
    exact ⟨isTitle_eq_true_iff.1 htitle, hrule⟩
  · have hid := id_of_additions_getElem? hn
    have hnone : empty.issued = 0 := rfl
    omega
  · exact exists_additions_iff.2 (hkept.handedOut row.id (List.mem_map_of_mem hrow))
  · rintro earlier later rfl task htask row hrow hid
    -- The id was handed out earlier, and no later part of the run brings it back.
    have hle := (exists_additions_iff.1 ⟨task, htask, rfl⟩).2
    have hmem : row.id ∈ ((empty.afterAll earlier).afterAll later).ids := by
      rw [afterAll, afterAll, ← List.foldl_append]
      exact List.mem_map_of_mem hrow
    rw [hid] at hmem ⊢
    exact List.mem_map.1 (mem_ids_of_mem_ids_afterAll hmem hle)

end Store

end Agenda
