import Agenda.Command.Grammar

/-!
# Help on the command line

What is printed where a command line asks for help, and what is said of one that gives no command.
-/

namespace Agenda.CommandLine

/-- The help text. -/
def helpText : String :=
  "A task scheduler with compact repeat rules: d 5, y, w 1,3, m -1 2,8\n\n" ++
  "Usage: agenda [--today YYYYMMDD] COMMAND\n\n" ++
  "Commands:\n" ++
  "  add TITLE [-d DATE] [-c COMMENT] [-r RULE]     add a task\n" ++
  "  list [-s TEXT] [--limit N] [--json]            list tasks, nearest date first\n" ++
  "  show ID [--json]                               show a task\n" ++
  "  edit ID [--title TEXT] [--date DATE] [--comment TEXT | --comment-clear]\n" ++
  "          [--repeat RULE | --repeat-clear]       change a task\n" ++
  "  done ID                                        complete a task\n" ++
  "  delete ID [-f]                                 delete a task\n" ++
  "  next-date [--now DATE] --date DATE --repeat RULE\n" ++
  "                                                 tell the next date of a rule\n"

/-- The version text. -/
def versionText : String := "agenda 0.1.0\n"

/-- A fault in words. -/
def UsageFault.message : UsageFault → String
  | helpWanted => "help is asked for"
  | versionWanted => "the version is asked for"
  | noArguments => "a command is needed"
  | noCommand => "a command is needed"
  | unknownCommand => "there is no such command"
  | missingArgument => "a required argument is missing"
  | unknownArgument => "there is an argument too many, or an unknown one"
  | missingValue => "an option has no value"
  | badValue => "a value is no number, or out of range"
  | conflict => "an argument is repeated, or excludes another"
  | unneededValue => "a flag takes no value"

/-- What goes to the output for a command line that gives no command. -/
def UsageFault.output : UsageFault → String
  | helpWanted => helpText
  | versionWanted => versionText
  | _ => ""

/-- What is reported as an error for a command line that gives no command. -/
def UsageFault.report : UsageFault → String
  | helpWanted => ""
  | versionWanted => ""
  | fault => "error: " ++ fault.message ++ "; try --help\n"

end Agenda.CommandLine
