import Agenda.Proofs.Store.Identity

/-!
# One operation, one row

A refused operation leaves the store alone; any other one leaves every row alone but the one it
names or adds. The task that it answers with is the one that is then found
(`Store.operation_frame`).
-/

namespace Agenda

open Calendar

namespace Store

variable {store later : Store} {op : Operation} {result : Except Error Answer}

/-- The id of the row that an operation names, or adds. -/
def target (store : Store) : Operation → Int
  | .add _ _ => store.nextId
  | .update id _ _ => id
  | .setDate id _ => id
  | .complete id _ => id
  | .delete id => id

/-- The rows of all other ids, in order. -/
def others (store : Store) (id : Int) : List Task := store.rows.filter (·.id ≠ id)

/-- A replacement leaves the rows of all other ids alone. -/
theorem others_replace {task : Task} {id : Int} (h : task.id = id) :
    (store.replace task).others id = store.others id := by
  subst h
  unfold others replace
  induction store.rows with
  | nil => rfl
  | cons row rows ih =>
    rw [List.map_cons]
    by_cases hid : row.id = task.id
    · rw [if_pos hid, List.filter_cons_of_neg (by simp),
        List.filter_cons_of_neg (by simp [hid]), ih]
    · rw [if_neg hid, List.filter_cons_of_pos (by simp [hid]),
        List.filter_cons_of_pos (by simp [hid]), ih]

/-- A removal leaves the rows of all other ids alone. -/
theorem others_remove (store : Store) (id : Int) :
    (store.remove id).others id = store.others id := by
  unfold others remove
  rw [List.filter_filter]
  simp

private theorem WellKept.find?_nextId (h : store.WellKept) : store.find? store.nextId = none := by
  refine List.find?_eq_none.2 fun row hrow hid ↦ ?_
  have hle := (h.handedOut row.id (List.mem_map_of_mem hrow)).2
  rw [beq_iff_eq] at hid
  rw [hid, nextId] at hle
  omega

/-- A task that has replaced a row is found. -/
theorem find?_replace {task old : Task} {id : Int} (hfind : store.find? id = some old)
    (h : task.id = id) : (store.replace task).find? id = some task := by
  subst h
  have hold := (find?_eq_some hfind).2
  unfold find? at hfind
  rw [find?, replace, List.find?_map]
  simp only [Function.comp_def, id_ite_eq, hfind, Option.map_some, if_pos hold]

/-- A row that was removed is not found. -/
theorem find?_remove (store : Store) (id : Int) : (store.remove id).find? id = none := by
  refine List.find?_eq_none.2 fun row hrow ↦ ?_
  have hid := (List.mem_filter.1 hrow).2
  simpa using hid

private theorem Outcome.others_eq (h : Outcome store op result later) :
    later.others (store.target op) = store.others (store.target op) := by
  cases h with
  | refused op e => rfl
  | added hdate =>
    unfold others target
    rw [List.filter_append, List.filter_cons_of_neg (by simp [Store.added]), List.filter_nil,
      List.append_nil]
  | updated hfind hdate => exact others_replace (find?_eq_some hfind).2
  | dated hdate hfind => exact others_replace (find?_eq_some hfind).2
  | moved hfind hnext => exact others_replace (find?_eq_some hfind).2
  | finished hfind hdone => exact others_remove store _
  | removed hfind => exact others_remove store _

private theorem Outcome.find?_of_stored (hkept : store.WellKept) {task : Task}
    (h : Outcome store op (.ok (.stored task)) later) :
    task.id = store.target op ∧ later.find? task.id = some task := by
  cases h with
  | added hdate =>
    refine ⟨rfl, ?_⟩
    have hnone := hkept.find?_nextId
    unfold find? at hnone ⊢
    rw [List.find?_append, show (store.added _ _).id = store.nextId from rfl, hnone]
    simp [Store.added]
  | updated hfind hdate =>
    have hid := (find?_eq_some hfind).2
    exact ⟨hid, find?_replace (hid.symm ▸ hfind) rfl⟩

private theorem Outcome.find?_of_rescheduled {task : Task}
    (h : Outcome store op (.ok (.completed (.rescheduled task))) later) :
    later.find? task.id = some task ∧
      ∃ old, store.find? task.id = some old ∧ task = { old with date := task.date } := by
  cases h with
  | @moved id today next current hfind hnext =>
    have hfind : store.find? current.id = some current := (find?_eq_some hfind).2.symm ▸ hfind
    exact ⟨find?_replace hfind rfl, current, hfind, rfl⟩

/-- A refused operation leaves the store alone. -/
theorem Outcome.eq_of_error {e : Error} (h : Outcome store op (.error e) later) :
    later = store := by
  cases h with
  | refused => rfl

private theorem Outcome.find?_of_deleted {id : Int} {today : Date} {task : Task}
    (h : Outcome store (.complete id today) (.ok (.completed (.deleted task))) later) :
    store.find? id = some task ∧ task.repeatText = "" := by
  cases h with
  | finished hfind hdone => exact ⟨hfind, complete_eq_delete_iff.1 hdone⟩

private theorem Outcome.repeatText_of_find?_eq_none {id : Int} {today : Date} {row : Task}
    (h : Outcome store (.complete id today) result later) (hfind : store.find? id = some row)
    (hgone : later.find? id = none) : row.repeatText = "" := by
  cases h with
  | refused =>
    rw [hfind] at hgone
    exact absurd hgone (by simp)
  | @moved _ _ next current hcurrent hnext =>
    have hid : { current with date := next.text }.id = id := (find?_eq_some hcurrent).2
    rw [find?_replace hcurrent hid] at hgone
    exact absurd hgone (by simp)
  | finished hcurrent hdone =>
    rw [hfind] at hcurrent
    obtain rfl := Option.some.inj hcurrent
    exact complete_eq_delete_iff.1 hdone

private theorem complete_of_repeatText {id : Int} {row : Task} (hfind : store.find? id = some row)
    (hnone : row.repeatText = "") (today : Date) :
    store.complete id today = (.ok (.deleted row), store.remove id) := by
  simp only [complete, hfind, complete_eq_delete_iff.2 hnone]

/-- A completion is the end of a task exactly if it is a row that does not repeat. -/
theorem answer_complete_eq_deleted_iff {id : Int} {today : Date} {task : Task} :
    store.answer (.complete id today) = .ok (.completed (.deleted task)) ↔
      store.find? id = some task ∧ task.repeatText = "" := by
  constructor
  · intro h
    have houtcome := store.outcome (.complete id today)
    rw [h] at houtcome
    exact houtcome.find?_of_deleted
  · rintro ⟨hfind, hnone⟩
    rw [answer, complete_of_repeatText hfind hnone]
    rfl

/-- A completion removes a row exactly if it does not repeat. -/
theorem find?_complete_eq_none_iff {id : Int} {today : Date} {row : Task}
    (hfind : store.find? id = some row) :
    (store.after (.complete id today)).find? id = none ↔ row.repeatText = "" := by
  constructor
  · exact (store.outcome (.complete id today)).repeatText_of_find?_eq_none hfind
  · intro hnone
    rw [after, complete_of_repeatText hfind hnone]
    exact store.find?_remove id

/-- A store that comes about is well kept. -/
theorem Reachable.wellKept (h : store.Reachable) : store.WellKept := by
  obtain ⟨operations, rfl⟩ := h
  exact wellKept_afterAll operations

/-- What one operation does to a store that comes about. A refused one leaves it as it was, its next
id included; no operation touches a row but the one it names or adds. A task that was added or
updated is then found as it was answered, and so is one that has moved to its next date, where only
the date is new. A completion removes the row exactly if it does not repeat, and answers with it as
it was. -/
theorem operation_frame (hstore : store.Reachable) :
    (∀ op e, store.answer op = .error e → store.after op = store) ∧
    (∀ op, (store.after op).others (store.target op) = store.others (store.target op)) ∧
    (∀ op task, store.answer op = .ok (.stored task) →
      task.id = store.target op ∧ (store.after op).find? task.id = some task) ∧
    (∀ op task, store.answer op = .ok (.completed (.rescheduled task)) →
      (store.after op).find? task.id = some task ∧
        ∃ old, store.find? task.id = some old ∧ task = { old with date := task.date }) ∧
    (∀ id today row, store.find? id = some row →
      ((store.after (.complete id today)).find? id = none ↔ row.repeatText = "")) ∧
    ∀ id today task, store.answer (.complete id today) = .ok (.completed (.deleted task)) ↔
      store.find? id = some task ∧ task.repeatText = "" := by
  refine ⟨fun op e h ↦ ?_, fun op ↦ (store.outcome op).others_eq, fun op task h ↦ ?_,
    fun op task h ↦ ?_, fun id today row hfind ↦ find?_complete_eq_none_iff hfind,
    fun id today task ↦ answer_complete_eq_deleted_iff⟩
  all_goals
    have houtcome := store.outcome op
    rw [h] at houtcome
  · exact houtcome.eq_of_error
  · exact houtcome.find?_of_stored hstore.wellKept
  · exact houtcome.find?_of_rescheduled

/-- A one-off task and a daily one. -/
def twoTasks : Store :=
  ⟨[{ id := 1, date := "20240126", title := "Rent", comment := "", repeatText := "" },
    { id := 2, date := "20240127", title := "Walk", comment := "", repeatText := "d 1" }], 2⟩

/-- The two tasks come about by two additions. -/
theorem operation_frame_twoTasks :
    twoTasks.Reachable ∧
    (∀ op e, twoTasks.answer op = .error e → twoTasks.after op = twoTasks) ∧
    (∀ op, (twoTasks.after op).others (twoTasks.target op) =
      twoTasks.others (twoTasks.target op)) ∧
    (∀ op task, twoTasks.answer op = .ok (.stored task) →
      task.id = twoTasks.target op ∧ (twoTasks.after op).find? task.id = some task) ∧
    (∀ op task, twoTasks.answer op = .ok (.completed (.rescheduled task)) →
      (twoTasks.after op).find? task.id = some task ∧
        ∃ old, twoTasks.find? task.id = some old ∧ task = { old with date := task.date }) ∧
    (∀ id today row, twoTasks.find? id = some row →
      ((twoTasks.after (.complete id today)).find? id = none ↔ row.repeatText = "")) ∧
    ∀ id today task, twoTasks.answer (.complete id today) = .ok (.completed (.deleted task)) ↔
      twoTasks.find? id = some task ∧ task.repeatText = "" := by
  have hreachable : twoTasks.Reachable :=
    ⟨[.add { title := "Rent" } (.civil 2024 1 26 (by decide)),
      .add { title := "Walk", date := "20240127", repeatText := "d 1" }
        (.civil 2024 1 26 (by decide))], by decide⟩
  exact ⟨hreachable, operation_frame hreachable⟩

end Store

end Agenda
