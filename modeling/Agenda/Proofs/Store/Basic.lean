import Agenda.Store.Basic
import Agenda.Proofs.Schedule.Basic

/-!
# What an operation does to a store

An operation that is refused leaves the store as it was; any other one adds, replaces or removes one
row and answers with the task it is about (`Store.outcome`). What holds of the stores that come
about is proved from these cases.
-/

namespace Agenda

open Calendar

namespace Store

variable {store : Store}

/-- The store before any task has no rows. -/
theorem not_mem_rows_empty (row : Task) : row ∉ empty.rows := List.not_mem_nil

/-- A row that is found has the id that was looked for. -/
theorem find?_eq_some {id : Int} {task : Task} (h : store.find? id = some task) :
    task ∈ store.rows ∧ task.id = id :=
  ⟨List.mem_of_find?_eq_some h, by simpa using List.find?_some h⟩

/-- A row of the store after a replacement was there before, or is the new one. -/
theorem mem_rows_replace {task row : Task} (h : row ∈ (store.replace task).rows) :
    row ∈ store.rows ∨ row = task := by
  obtain ⟨old, hold, rfl⟩ := List.mem_map.1 h
  split
  · exact .inr rfl
  · exact .inl hold

/-- A task that has the id of a row is in the store after it has replaced that row. -/
theorem mem_rows_replace_self {task old : Task} (hold : old ∈ store.rows) (hid : old.id = task.id) :
    task ∈ (store.replace task).rows :=
  List.mem_map.2 ⟨old, hold, if_pos hid⟩

/-- A row of the store after a removal was there before. -/
theorem mem_rows_of_mem_remove {id : Int} {row : Task} (h : row ∈ (store.remove id).rows) :
    row ∈ store.rows :=
  (List.mem_filter.1 h).1

/-- A task has a checked date exactly if it has a title and its date and rule are accepted. -/
theorem checkedDate_eq_ok_iff {today : Date} {title date repeatText text : String} :
    checkedDate today title date repeatText = .ok text ↔
      isTitle title = true ∧ normalizeDate today date repeatText = .ok text := by
  unfold checkedDate
  split
  · next htitle => simp [htitle]
  · next htitle => simp [htitle]

/-- The row that an addition gives. -/
def added (store : Store) (new : NewTask) (date : String) : Task :=
  { id := store.nextId, date, title := new.title, comment := new.comment,
    repeatText := new.repeatText }

/-- What an operation that is not refused answers. -/
inductive Answer where
  /-- The task was added or changed; this is how it is stored. -/
  | stored (task : Task)
  /-- The task was completed. -/
  | completed (completion : TaskCompletion)
  /-- The operation was carried out. -/
  | done
deriving DecidableEq

/-- The answer to an operation. -/
def answer (store : Store) : Operation → Except Error Answer
  | .add new today => (store.add new today).1.map .stored
  | .update id change today => (store.update id change today).1.map .stored
  | .setDate id date => (store.setDate id date).1.map fun _ => .done
  | .complete id today => (store.complete id today).1.map .completed
  | .delete id => (store.delete id).1.map fun _ => .done

/-- What an operation answers and makes of a store. -/
inductive Outcome (store : Store) : Operation → Except Error Answer → Store → Prop
  /-- A refused operation does nothing. -/
  | refused (op : Operation) (e : Error) : Outcome store op (.error e) store
  /-- An addition puts a row under the next id at the end. -/
  | added {new : NewTask} {today : Date} {date : String}
      (hdate : checkedDate today new.title new.date new.repeatText = .ok date) :
      Outcome store (.add new today) (.ok (.stored (store.added new date)))
        ⟨store.rows ++ [store.added new date], store.issued + 1⟩
  /-- An update puts the merged task, with its date brought up to date, in place of the row. -/
  | updated {id : Int} {change : TaskUpdate} {today : Date} {current : Task} {date : String}
      (hfind : store.find? id = some current)
      (hdate : checkedDate today (change.applyTo current).title (change.applyTo current).date
        (change.applyTo current).repeatText = .ok date) :
      Outcome store (.update id change today) (.ok (.stored { change.applyTo current with date }))
        (store.replace { change.applyTo current with date })
  /-- Setting a date changes only that of the row. -/
  | dated {id : Int} {text : String} {day : Date} {current : Task}
      (hdate : Date.ofText? text = some day) (hfind : store.find? id = some current) :
      Outcome store (.setDate id text) (.ok .done) (store.replace { current with date := text })
  /-- Completing a repeating task moves the row to the next date. -/
  | moved {id : Int} {today next : Date} {current : Task} (hfind : store.find? id = some current)
      (hnext : Agenda.complete today current.date current.repeatText = .ok (.reschedule next)) :
      Outcome store (.complete id today)
        (.ok (.completed (.rescheduled { current with date := next.text })))
        (store.replace { current with date := next.text })
  /-- Completing any other task removes the row. -/
  | finished {id : Int} {today : Date} {current : Task} (hfind : store.find? id = some current)
      (hdone : Agenda.complete today current.date current.repeatText = .ok .delete) :
      Outcome store (.complete id today) (.ok (.completed (.deleted current))) (store.remove id)
  /-- A deletion removes the row. -/
  | removed {id : Int} {current : Task} (hfind : store.find? id = some current) :
      Outcome store (.delete id) (.ok .done) (store.remove id)

/-- The answer to an operation and the store after it belong together. -/
theorem outcome (store : Store) (op : Operation) :
    Outcome store op (store.answer op) (store.after op) := by
  cases op with
  | add new today =>
    cases hdate : checkedDate today new.title new.date new.repeatText with
    | error e =>
      simp only [answer, after, add, hdate]
      exact .refused _ _
    | ok date =>
      simp only [answer, after, add, hdate]
      exact .added hdate
  | update id change today =>
    cases hfind : store.find? id with
    | none =>
      simp only [answer, after, update, hfind]
      exact .refused _ _
    | some current =>
      cases hdate : checkedDate today (change.applyTo current).title (change.applyTo current).date
          (change.applyTo current).repeatText with
      | error e =>
        simp only [answer, after, update, hfind, hdate]
        exact .refused _ _
      | ok date =>
        simp only [answer, after, update, hfind, hdate]
        exact .updated hfind hdate
  | setDate id text =>
    cases hdate : Date.ofText? text with
    | none =>
      simp only [answer, after, setDate, readDate_of_ofText?_eq_none hdate]
      exact .refused _ _
    | some day =>
      cases hfind : store.find? id with
      | none =>
        simp only [answer, after, setDate, readDate_of_ofText?_eq_some hdate, hfind]
        exact .refused _ _
      | some current =>
        simp only [answer, after, setDate, readDate_of_ofText?_eq_some hdate, hfind]
        exact .dated hdate hfind
  | complete id today =>
    cases hfind : store.find? id with
    | none =>
      simp only [answer, after, complete, hfind]
      exact .refused _ _
    | some current =>
      cases hdone : Agenda.complete today current.date current.repeatText with
      | error e =>
        simp only [answer, after, complete, hfind, hdone]
        exact .refused _ _
      | ok completion =>
        cases completion with
        | delete =>
          simp only [answer, after, complete, hfind, hdone]
          exact .finished hfind hdone
        | reschedule next =>
          simp only [answer, after, complete, hfind, hdone]
          exact .moved hfind hdone
  | delete id =>
    cases hfind : store.find? id with
    | none =>
      simp only [answer, after, delete, hfind]
      exact .refused _ _
    | some current =>
      simp only [answer, after, delete, hfind]
      exact .removed hfind

end Store

end Agenda
