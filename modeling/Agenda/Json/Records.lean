import Agenda.Json.Value
import Agenda.Rule.Text
import Agenda.Task

/-!
# Tasks in JSON

A task is an object of strings, its id included; a listing is an object with the array of its tasks;
a rule is its text.
-/

namespace Agenda

/-- The object of a task. -/
def Task.toJson (task : Task) : Json :=
  .object [
    (some "id", .ofText (String.ofList (Text.decimal task.id))),
    (some "date", .ofText task.date),
    (some "title", .ofText task.title),
    (some "comment", .ofText task.comment),
    (some "repeat", .ofText task.repeatText)]

/-- Reads a task. Comment and repeat rule may be missing. -/
def Task.ofJson? (json : Json) : Option Task := do
  match ← json.fieldValues? ["id", "date", "title", "comment", "repeat"] with
  | [id, date, title, comment, repeatText] =>
    return {
      id := ← Text.readInt64? (← Json.requiredText? id).toList
      date := ← Json.requiredText? date
      title := ← Json.requiredText? title
      comment := ← Json.optionalText? comment
      repeatText := ← Json.optionalText? repeatText }
  | _ => none

/-- The object of a new task. -/
def NewTask.toJson (new : NewTask) : Json :=
  .object [
    (some "title", .ofText new.title),
    (some "date", .ofText new.date),
    (some "comment", .ofText new.comment),
    (some "repeat", .ofText new.repeatText)]

/-- Reads a new task. All but the title may be missing. -/
def NewTask.ofJson? (json : Json) : Option NewTask := do
  match ← json.fieldValues? ["title", "date", "comment", "repeat"] with
  | [title, date, comment, repeatText] =>
    return {
      title := ← Json.requiredText? title
      date := ← Json.optionalText? date
      comment := ← Json.optionalText? comment
      repeatText := ← Json.optionalText? repeatText }
  | _ => none

/-- A listing of tasks, as it is handed on. -/
structure TaskList where
  tasks : List Task
deriving DecidableEq, Repr

/-- The object of a listing. -/
def TaskList.toJson (list : TaskList) : Json :=
  .object [(some "tasks", .array (list.tasks.map Task.toJson))]

/-- Reads a listing. -/
def TaskList.ofJson? (json : Json) : Option TaskList := do
  match ← json.fieldValues? ["tasks"] with
  | [some (.array items)] => return ⟨← items.mapM Task.ofJson?⟩
  | _ => none

/-- The string of a rule. -/
def Rule.toJson (rule : Rule) : Json := .ofText rule.text

/-- Reads a rule. -/
def Rule.ofJson? (json : Json) : Option Rule := do (Rule.parse (← json.text?)).toOption

end Agenda
