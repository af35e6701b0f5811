import Agenda.Command.Basic
import Agenda.Command.Grammar

/-!
# Reading a command line

The forms of the commands, and the reader from arguments to a command. The day to use as the current
one may be given before or after the name of the command; the one given after it wins.
-/

namespace Agenda.CommandLine

/-- The option for the current day, which every form has. -/
def todayOption : Slot := { name := "today" }

/-- The name of a positional argument or option that is an id. -/
def idSlot : Slot := { name := "id", effect := .takesValue .int64 }

/-- A flag. -/
def flag (name : String) (short : Option Char := none) : Slot := { name, short, effect := .sets }

/-- The form of what stands before the name of a command. -/
def rootForm : Form where
  options := [todayOption, helpFlag,
    { name := "version", short := some 'V', effect := .asksVersion }]

/-- The names of the commands. -/
inductive Name where
  | add
  | list
  | display
  | edit
  | finish
  | delete
  | nextDate
deriving DecidableEq, Repr

/-- The command that a word names. -/
def Name.ofWord? : String → Option Name
  | "add" => some add
  | "list" => some list
  | "show" => some display
  | "edit" => some edit
  | "done" => some finish
  | "delete" => some delete
  | "next-date" => some nextDate
  | _ => none

/-- The form of a command. -/
def Name.form : Name → Form
  | add => {
      options := [todayOption, helpFlag, { name := "date", short := some 'd' },
        { name := "comment", short := some 'c' }, { name := "repeat", short := some 'r' }]
      positional := some { name := "title" }
      required := ["title"] }
  | list => {
      options := [todayOption, helpFlag, { name := "search", short := some 's' },
        { name := "limit", effect := .takesValue .nat32 }, flag "json"] }
  | display => {
      options := [todayOption, helpFlag, flag "json"]
      positional := some idSlot
      required := ["id"] }
  | edit => {
      options := [todayOption, helpFlag, { name := "title" }, { name := "date" },
        { name := "comment" }, flag "comment-clear", { name := "repeat" }, flag "repeat-clear"]
      positional := some idSlot
      required := ["id"]
      exclusive := [("comment", "comment-clear"), ("repeat", "repeat-clear")] }
  | finish => {
      options := [todayOption, helpFlag]
      positional := some idSlot
      required := ["id"] }
  | delete => {
      options := [todayOption, helpFlag, flag "force" (some 'f')]
      positional := some idSlot
      required := ["id"] }
  | nextDate => {
      options := [todayOption, helpFlag, { name := "now" }, { name := "date" },
        { name := "repeat", hyphenValue := true }]
      required := ["date", "repeat"] }

namespace Progress

/-- The text given for an argument that has been checked to be there. -/
def textOf (progress : Progress) (name : String) : String := (progress.value? name).getD ""

/-- The number given for an argument that has been checked to be one. -/
def numberOf (progress : Progress) (name : String) : Int :=
  ((progress.value? name).bind fun value => Text.readInt64? value.toList).getD 0

/-- The command that the settled arguments make up. -/
def command (progress : Progress) : Name → Command
  | .add =>
    .add (progress.textOf "title") (progress.value? "date") (progress.value? "comment")
      (progress.value? "repeat")
  | .list =>
    .list (progress.value? "search")
      (if progress.has "limit" then some (progress.numberOf "limit").toNat else none)
      (progress.has "json")
  | .display => .display (progress.numberOf "id") (progress.has "json")
  | .edit =>
    .edit (progress.numberOf "id") (progress.value? "title") (progress.value? "date")
      (progress.value? "comment") (progress.value? "repeat") (progress.has "comment-clear")
      (progress.has "repeat-clear")
  | .finish => .finish (progress.numberOf "id")
  | .delete => .delete (progress.numberOf "id") (progress.has "force")
  | .nextDate =>
    .nextDate (progress.value? "now") (progress.textOf "date") (progress.textOf "repeat")

end Progress

/-- Reads the arguments behind the name of a command: the command, and the current day if one is
given. -/
def readNamed (name : Name) (arguments : List String) :
    Except UsageFault (Option String × Command) := do
  let progress ← ({} : Progress).readAll name.form arguments
  name.form.check progress
  return (progress.value? "today", progress.command name)

/-- What the request for help on the given words answers: there are help texts for the program, for
each command and for the request itself. -/
def helpOn : List String → UsageFault
  | [] => .helpWanted
  | ["help"] => .helpWanted
  | [word] => if (Name.ofWord? word).isSome then .helpWanted else .unknownCommand
  | _ => .unknownCommand

/-- The fault of a word before any command that names none. -/
def strayWord (trailing : Bool) (word : String) : UsageFault :=
  if trailing && (word == "help" || (Name.ofWord? word).isSome) then .unknownArgument
  else .unknownCommand

/-- Reads a command line from what stands before the command on. -/
def readRoot (progress : Progress) : List String → Except UsageFault Invocation
  | [] => do
    let progress ← progress.settle
    if progress.given.isEmpty then .error .noArguments else .error .noCommand
  | argument :: arguments =>
    if progress.trailing then .error (strayWord true argument)
    else
      match progress.waiting?, shapeOf argument with
      | none, .plain =>
        match argument, Name.ofWord? argument with
        | "help", _ => .error (helpOn arguments)
        | _, some name => do
          let (today, command) ← readNamed name arguments
          let progress ← progress.settle
          return { today := today.or (progress.value? "today"), command }
        | _, none => .error (strayWord false argument)
      | _, _ => do
        let progress ← progress.read rootForm argument
        readRoot progress arguments

/-- Reads a command line. -/
def read (arguments : List String) : Except UsageFault Invocation := readRoot {} arguments

end Agenda.CommandLine
