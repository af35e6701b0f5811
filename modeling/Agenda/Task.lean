import Agenda.Text.Blank

/-!
# Tasks

A task is due on a date and may repeat. Its date and repeat rule are kept as texts, since a record
read from elsewhere may hold anything there; the store checks what it takes in.
-/

namespace Agenda

/-- A task of the store. An empty repeat text stands for a task that is done once. -/
structure Task where
  id : Int
  date : String
  title : String
  comment : String
  repeatText : String
deriving DecidableEq, Repr

/-- Whether the task comes up again. -/
def Task.isRecurring (task : Task) : Bool := task.repeatText != ""

/-- What is known of a task before it is stored. An empty date stands for the current day. -/
structure NewTask where
  title : String
  date : String := ""
  comment : String := ""
  repeatText : String := ""
deriving DecidableEq, Repr

/-- A change to a task; what is not given stays. -/
structure TaskUpdate where
  title : Option String := none
  date : Option String := none
  comment : Option String := none
  repeatText : Option String := none
deriving DecidableEq, Repr

namespace TaskUpdate

/-- Whether the update gives nothing. -/
def isEmpty (update : TaskUpdate) : Bool :=
  update.title.isNone && update.date.isNone && update.comment.isNone && update.repeatText.isNone

/-- The task with what the update gives, unchecked. -/
def applyTo (update : TaskUpdate) (task : Task) : Task where
  id := task.id
  date := update.date.getD task.date
  title := update.title.getD task.title
  comment := update.comment.getD task.comment
  repeatText := update.repeatText.getD task.repeatText

/-- An update leaves the id alone. -/
theorem id_applyTo (update : TaskUpdate) (task : Task) : (update.applyTo task).id = task.id := rfl

/-- An empty update changes nothing. -/
theorem applyTo_of_isEmpty {update : TaskUpdate} (h : update.isEmpty = true) (task : Task) :
    update.applyTo task = task := by
  obtain ⟨title, date, comment, repeatText⟩ := update
  simp only [isEmpty, Bool.and_eq_true, Option.isNone_iff_eq_none] at h
  obtain ⟨⟨⟨rfl, rfl⟩, rfl⟩, rfl⟩ := h
  rfl

end TaskUpdate

/-- Whether a title has something besides blanks. -/
def isTitle (title : String) : Bool := !Text.allBlank title.toList

end Agenda
