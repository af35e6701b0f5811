import Agenda.Command.Basic
import Agenda.Command.DateArgument
import Agenda.Config.Setting
import Agenda.Json.Records
import Agenda.Store.Query
import Agenda.Timezone
import Agenda.View.Tasks

/-!
# Running commands

A command works on the store and prints a text, or is refused. The current day is given on the
command line, or else comes from the clock in the configured time zone. The clock and the answer to
a prompt are arguments here, so that a command is a function of what it is given.
-/

namespace Agenda.Command

open Calendar View

/-- The current day. The clock counts only in a time zone that exists. -/
def currentDay (config : Config) (clock : Date) (today : Option String) :
    Except CommandError Date :=
  match today with
  | some text => dayArgument text
  | none =>
    if Timezone.isName config.timezone then .ok clock
    else .error (.unknownTimezone config.timezone)

/-- An optional date argument in stored form. -/
def optionalDateArgument (text : Option String) (today : Date) :
    Except CommandError (Option String) :=
  match text with
  | none => .ok none
  | some text => (dateArgument text today).map some

/-- A line that tells of a field of a new task. -/
def arrowLine (text : String) : String := "  " ++ Text.blue "→" ++ " " ++ text ++ "\n"

/-- What is printed of a new task. -/
def createdText (task : Task) : String :=
  Text.boldGreen "✓" ++ " Created task: " ++ Text.brightBold task.title ++ "\n" ++
  arrowLine ("Task ID: " ++ Text.yellow (numberText task.id)) ++
  arrowLine ("Date: " ++ Text.cyan task.date) ++
  (if task.isRecurring then arrowLine ("Repeats " ++ describeRepeat task.repeatText) else "")

/-- What is printed of a changed task. -/
def updatedText (task : Task) : String :=
  "Updated task " ++ numberText task.id ++ s!": '{task.title}' on {task.date}\n"

/-- What is printed of a completed task. -/
def completedText : TaskCompletion → String
  | .deleted task => s!"Completed task: '{task.title}'\n"
  | .rescheduled task => s!"Completed task: '{task.title}', next on {task.date}\n"

/-- The result of a store operation as a command has it: what is printed, or why it is refused. -/
def printed {α : Type} (print : α → String) (result : Except Error α × Store) :
    Except CommandError String × Store :=
  match result with
  | (.ok a, store) => (.ok (print a), store)
  | (.error error, store) => (.error (.refused error), store)

/-- The change that an edit asks for. -/
def editedFields (title date comment repeatText : Option String)
    (clearComment clearRepeat : Bool) : TaskUpdate where
  title := title
  date := date
  comment := if clearComment then some "" else comment
  repeatText := if clearRepeat then some "" else repeatText

/-- Tells the next date of a rule after a day. -/
def tellNextDate (now : Option String) (date repeatText : String) (today : Date) :
    Except CommandError String := do
  let now ← match now with
    | some text => dayArgument text
    | none => pure today
  let next ← (nextDateText now date repeatText).mapError .refused
  return next ++ "\n"

/-- Runs a command on the store on a given day. A deletion without `force` is carried out only if it
is `confirmed`. -/
def runOn (config : Config) (today : Date) (confirmed : Bool) (store : Store) :
    Command → Except CommandError String × Store
  | .add title date comment repeatText =>
    match optionalDateArgument date today with
    | .error error => (.error error, store)
    | .ok date =>
      let new : NewTask :=
        { title, date := date.getD "", comment := comment.getD "",
          repeatText := repeatText.getD "" }
      printed createdText (store.add new today)
  | .list search limit json =>
    match store.list search (limit.getD config.searchLimit) with
    | .error error => (.error (.refused error), store)
    | .ok tasks =>
      (.ok (if json then (TaskList.toJson ⟨tasks⟩).indentedText ++ "\n" else listing tasks today),
        store)
  | .display id json =>
    match store.find? id with
    | none => (.error (.refused (.taskNotFound id)), store)
    | some task =>
      (.ok (if json then task.toJson.indentedText ++ "\n" else details task today), store)
  | .edit id title date comment repeatText clearComment clearRepeat =>
    match optionalDateArgument date today with
    | .error error => (.error error, store)
    | .ok date =>
      let change := editedFields title date comment repeatText clearComment clearRepeat
      if change.isEmpty then (.error .nothingToChange, store)
      else printed updatedText (store.update id change today)
  | .finish id => printed completedText (store.complete id today)
  | .delete id force =>
    match store.find? id with
    | none => (.error (.refused (.taskNotFound id)), store)
    | some task =>
      if force || confirmed then
        printed (fun _ => s!"Deleted task: '{task.title}'\n") (store.delete id)
      else (.ok "Deletion cancelled.\n", store)
  | .nextDate now date repeatText => (tellNextDate now date repeatText today, store)

/-- Whether a command works on the store. -/
def usesStore : Command → Bool
  | .nextDate .. => false
  | _ => true

/-- Runs a command as it was read. -/
def run (config : Config) (clock : Date) (confirmed : Bool) (store : Store)
    (invocation : Invocation) : Except CommandError String × Store :=
  match currentDay config clock invocation.today with
  | .error error => (.error error, store)
  | .ok today => runOn config today confirmed store invocation.command

end Agenda.Command
