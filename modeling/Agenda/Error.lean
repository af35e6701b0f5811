import Agenda.Rule.Basic

/-!
# Errors

What can be wrong with a task, a date, a repeat rule or a search, as causes, and the one place where
each cause is put into words.
-/

namespace Agenda

/-- What the entries of a list in a repeat rule name. -/
inductive EntryKind where
  | weekday
  | day
  | month
deriving DecidableEq, Repr

/-- The word for an entry. -/
def EntryKind.name : EntryKind → String
  | .weekday => "weekday"
  | .day => "day"
  | .month => "month"

/-- What can be wrong with the arguments of a repeat rule whose kind is known. -/
inductive ArgumentFault where
  /-- A daily rule repeats every zero days. -/
  | zeroInterval
  /-- The rule `text` of the given kind has too few or too many arguments. -/
  | wrongCount (kind text : String)
  /-- The interval is no number. -/
  | unreadableInterval (token : String)
  /-- The interval is zero or less. -/
  | nonPositiveInterval (value : Int)
  /-- A list has an entry that is no number or out of range. -/
  | badEntry (kind : EntryKind) (entry : String)
deriving DecidableEq, Repr

/-- A fault in words. -/
def ArgumentFault.message : ArgumentFault → String
  | .zeroInterval => "daily interval must be positive"
  | .wrongCount kind text => s!"wrong number of arguments for '{kind}' in '{text}'"
  | .unreadableInterval token => s!"invalid days format: '{token}'"
  | .nonPositiveInterval value =>
    "days value must be positive: " ++ String.ofList (Text.decimal value)
  | .badEntry kind entry => "invalid " ++ kind.name ++ s!": '{entry}'"

/-- Why an operation on tasks is refused. -/
inductive Error where
  /-- No task has the id. -/
  | taskNotFound (id : Int)
  /-- The title is empty or blank. -/
  | missingTitle
  /-- The text of a repeat rule is empty. -/
  | emptyRule
  /-- The first word of a repeat rule names no kind of rule. -/
  | unknownRuleKind (token : String)
  /-- The kind of a repeat rule is known, its arguments are wrong. -/
  | invalidArgument (fault : ArgumentFault)
  /-- The interval of a daily rule is too long. -/
  | intervalTooLong (value : Int)
  /-- The text is no date in stored form. -/
  | invalidDate (text : String)
  /-- There is no repeat rule to evaluate. -/
  | noRule
  /-- No date of the calendar fits the rule with this text. -/
  | unsatisfiableRule (ruleText : String)
  /-- The pattern of a search has too many bytes for the database. -/
  | patternTooLong
deriving DecidableEq, Repr

namespace Error

/-- The id that no task has, in words. -/
def missingId (id : Int) : String := "no task with ID " ++ String.ofList (Text.decimal id)

/-- An error in words. -/
def message : Error → String
  | taskNotFound id => "Task not found: " ++ missingId id
  | missingTitle => "Invalid input: title is missing"
  | emptyRule => "Empty repeat rule"
  | unknownRuleKind token => s!"Unknown repeat rule kind: '{token}'"
  | invalidArgument fault => "Invalid repeat argument: " ++ fault.message
  | intervalTooLong value =>
    "The maximum allowed interval (" ++ String.ofList (Text.decimal Rule.longestInterval) ++
      " days) has been exceeded: " ++ String.ofList (Text.decimal value)
  | invalidDate text => s!"Invalid date: '{text}'"
  | noRule => "Task has no repeat rule"
  | unsatisfiableRule ruleText => s!"No matching date found for repeat rule '{ruleText}'"
  | patternTooLong => "Database error"

/-- Whether the caller's dates, rules or title are at fault; a missing task is not of this kind, nor
is what the database reports. -/
def isValidation : Error → Bool
  | taskNotFound _ | patternTooLong => false
  | _ => true

end Error

end Agenda
