import Agenda.Schedule
import Agenda.Task

/-!
# The task store

The store keeps its rows in the order of their ids and remembers how many ids it has handed out:
an id is never used again, also after its row is gone. An operation returns what it found or why it
was refused, together with the store as it is afterwards; a refused operation leaves the store as
it was.
-/

namespace Agenda

open Calendar

/-- A store of tasks. -/
structure Store where
  rows : List Task
  issued : Nat
deriving DecidableEq

/-- What became of a task that was completed. -/
inductive TaskCompletion where
  /-- The task is gone; this is how it was. -/
  | deleted (task : Task)
  /-- The task stays, under its next date. -/
  | rescheduled (task : Task)
deriving DecidableEq

namespace Store

/-- The store before any task. -/
def empty : Store := ⟨[], 0⟩

/-- The id of the next task. -/
def nextId (store : Store) : Int := store.issued + 1

/-- The row with an id. -/
def find? (store : Store) (id : Int) : Option Task := store.rows.find? (·.id == id)

/-- The store with a task in place of the row that has its id. -/
def replace (store : Store) (task : Task) : Store :=
  { store with rows := store.rows.map fun row => if row.id = task.id then task else row }

/-- The store without the row of an id. -/
def remove (store : Store) (id : Int) : Store :=
  { store with rows := store.rows.filter fun row => row.id ≠ id }

/-- The date under which a task with the given title, date and repeat rule is kept. -/
def checkedDate (today : Date) (title date repeatText : String) : Except Error String :=
  if isTitle title then normalizeDate today date repeatText else .error .missingTitle

/-- Adds a task under the next id. -/
def add (store : Store) (new : NewTask) (today : Date) : Except Error Task × Store :=
  match checkedDate today new.title new.date new.repeatText with
  | .error e => (.error e, store)
  | .ok date =>
    let task : Task :=
      { id := store.nextId, date, title := new.title, comment := new.comment,
        repeatText := new.repeatText }
    (.ok task, ⟨store.rows ++ [task], store.issued + 1⟩)

/-- Changes a task; its date is brought up to date as on creation. -/
def update (store : Store) (id : Int) (change : TaskUpdate) (today : Date) :
    Except Error Task × Store :=
  match store.find? id with
  | none => (.error (.taskNotFound id), store)
  | some current =>
    let merged := change.applyTo current
    match checkedDate today merged.title merged.date merged.repeatText with
    | .error e => (.error e, store)
    | .ok date =>
      let task := { merged with date }
      (.ok task, store.replace task)

/-- Sets the date of a task to a date in stored form. -/
def setDate (store : Store) (id : Int) (date : String) : Except Error Unit × Store :=
  match readDate date with
  | .error e => (.error e, store)
  | .ok _ =>
    match store.find? id with
    | none => (.error (.taskNotFound id), store)
    | some task => (.ok (), store.replace { task with date })

/-- Completes a task: one that repeats moves to its next date, any other goes. -/
def complete (store : Store) (id : Int) (today : Date) : Except Error TaskCompletion × Store :=
  match store.find? id with
  | none => (.error (.taskNotFound id), store)
  | some task =>
    match Agenda.complete today task.date task.repeatText with
    | .error e => (.error e, store)
    | .ok .delete => (.ok (.deleted task), store.remove id)
    | .ok (.reschedule date) =>
      let moved := { task with date := date.text }
      (.ok (.rescheduled moved), store.replace moved)

/-- Removes a task. -/
def delete (store : Store) (id : Int) : Except Error Unit × Store :=
  match store.find? id with
  | none => (.error (.taskNotFound id), store)
  | some _ => (.ok (), store.remove id)

/-- An operation that may change the store. -/
inductive Operation where
  | add (new : NewTask) (today : Date)
  | update (id : Int) (change : TaskUpdate) (today : Date)
  | setDate (id : Int) (date : String)
  | complete (id : Int) (today : Date)
  | delete (id : Int)

/-- The store after an operation, successful or not. -/
def after (store : Store) : Operation → Store
  | .add new today => (store.add new today).2
  | .update id change today => (store.update id change today).2
  | .setDate id date => (store.setDate id date).2
  | .complete id today => (store.complete id today).2
  | .delete id => (store.delete id).2

/-- The store after a run of operations. -/
def afterAll (store : Store) (operations : List Operation) : Store := operations.foldl after store

/-- The stores that come about from the empty one. -/
def Reachable (store : Store) : Prop := ∃ operations, store = empty.afterAll operations

end Store

end Agenda
