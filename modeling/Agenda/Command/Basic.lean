/-!
# Commands

What a command line asks for, once it has been read. Dates are still as they were typed.
-/

namespace Agenda

/-- A command. -/
inductive Command where
  /-- Add a task. -/
  | add (title : String) (date comment repeatText : Option String)
  /-- List tasks, as a table or as JSON. -/
  | list (search : Option String) (limit : Option Nat) (json : Bool)
  /-- Show one task, as text or as JSON. -/
  | display (id : Int) (json : Bool)
  /-- Change a task; comment and repeat rule can also be cleared. -/
  | edit (id : Int) (title date comment repeatText : Option String)
      (clearComment clearRepeat : Bool)
  /-- Complete a task. -/
  | finish (id : Int)
  /-- Delete a task; without `force` only after a confirmation. -/
  | delete (id : Int) (force : Bool)
  /-- Tell the next date of a rule. -/
  | nextDate (now : Option String) (date repeatText : String)
deriving DecidableEq, Repr

/-- A command and the day to use as the current one, if it is given. -/
structure Invocation where
  today : Option String
  command : Command
deriving DecidableEq, Repr

end Agenda
