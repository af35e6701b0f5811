import Agenda.Command.Error
import Agenda.Recurrence

/-!
# Dates on the command line

The date of a task may be given in stored form or in English; the current day only in stored form.
-/

namespace Agenda.Command

open Calendar

/-- The stored form of a date given for a task. Digits alone are read as a stored date, anything
else as English; a blank text stays empty, for the store to fill in. -/
def dateArgument (text : String) (today : Date) : Except CommandError String :=
  let trimmed := Text.trim text.toList
  if trimmed = [] then .ok ""
  else if trimmed.all Char.isDigit then
    match readDate (String.ofList trimmed) with
    | .ok date => .ok date.text
    | .error error => .error (.refused error)
  else
    match DateExpression.dateOf today trimmed with
    | .ok date => .ok date.text
    | .error fault => .error (.dateExpression (String.ofList trimmed) fault)

/-- The current day given on the command line. -/
def dayArgument (text : String) : Except CommandError Date :=
  (readDate (String.ofList (Text.trim text.toList))).mapError .refused

end Agenda.Command
