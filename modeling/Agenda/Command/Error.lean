import Agenda.DateExpression.Parser
import Agenda.Directory.Fault
import Agenda.Error
import Agenda.Text.Style

/-!
# Errors of the command line

Why a command is refused: what the store or a date or rule has against it, or what only a command
line can get wrong.
-/

namespace Agenda

/-- Why a command is refused. -/
inductive CommandError where
  /-- The tasks, dates, rules or searches given are at fault. -/
  | refused (error : Error)
  /-- A date in English cannot be read. -/
  | dateExpression (text : String) (fault : DateExpression.Fault)
  /-- The time zone of the configuration does not exist. -/
  | unknownTimezone (name : String)
  /-- An edit gives no field. -/
  | nothingToChange
  /-- The database cannot be opened. -/
  | database (fault : DatabaseFault)
deriving DecidableEq, Repr

namespace CommandError

/-- The message that a time zone does not exist. -/
def unknownTimezoneMessage (name : String) : String :=
  s!"Invalid timezone: '{name}'. Use IANA timezone names like 'Europe/Berlin'"

/-- An error as the command line words it. -/
def message : CommandError → String
  | refused (.taskNotFound id) => Error.missingId id
  | refused .missingTitle => Error.missingTitle.message
  | refused .patternTooLong =>
    Error.patternTooLong.message ++ ": " ++
      DatabaseFault.returned 1 "LIKE or GLOB pattern too complex"
  | refused error => "Invalid repeat rule or date: " ++ Text.yellow error.message
  | dateExpression text fault => s!"Failed to parse date '{text}': " ++ fault.message
  | unknownTimezone name => unknownTimezoneMessage name
  | nothingToChange =>
    "Nothing to change. Pass at least one of --title, --date, --comment or --repeat"
  | database fault => fault.message

/-- What is reported ahead of the line on an error. -/
def notice : CommandError → String
  | dateExpression _ fault => fault.notice
  | _ => ""

/-- What is reported of an error: its line, perhaps behind a notice. -/
def report (error : CommandError) : String :=
  error.notice ++ Text.boldRed "Error:" ++ " " ++ error.message ++ "\n"

end CommandError

end Agenda
