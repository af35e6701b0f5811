import Agenda.Task
import Agenda.Text.Style
import Agenda.View.RelativeDay
import Agenda.View.Repeat
import Agenda.View.Table

/-!
# Tasks on the screen

A listing is a table with one row per task; a single task is shown with one line per field.
-/

namespace Agenda.View

open Calendar Text

/-- A whole number as text. -/
def numberText (n : Int) : String := String.ofList (decimal n)

/-- The columns of a listing. -/
def listingHead : List String := ["ID", "Date", "Title", "Repeat", "Comment"]

/-- The cells of a task in a listing; a task that comes up again has a mark before its title. -/
def listingCells (today : Date) (task : Task) : List String :=
  [numberText task.id,
   task.date ++ " (" ++ relativeDay task.date today ++ ")",
   (if task.isRecurring then "↻ " ++ task.title else task.title),
   describeRepeat task.repeatText,
   task.comment]

/-- A listing of tasks. -/
def listing (tasks : List Task) (today : Date) : String :=
  if tasks.isEmpty then "No tasks found.\n"
  else tableText listingHead (tasks.map (listingCells today))

/-- A single task. -/
def details (task : Task) (today : Date) : String :=
  bold "Task" ++ " " ++ yellow (numberText task.id) ++ "\n" ++
  "  Title:   " ++ brightBold task.title ++ "\n" ++
  "  Date:    " ++ cyan task.date ++ " (" ++ relativeDay task.date today ++ ")\n" ++
  "  Repeat:  " ++ describeRepeat task.repeatText ++ "\n" ++
  (if task.comment = "" then "" else "  Comment: " ++ task.comment ++ "\n")

end Agenda.View
