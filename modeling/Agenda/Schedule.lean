import Agenda.Recurrence

/-!
# Keeping a task's date current

When a task is created or edited, a date in the past is brought forward. When it is completed, a
repeating task moves to its next date and any other task is done with.
-/

namespace Agenda

open Calendar

/-- What becomes of the date of a task that is created or edited. -/
inductive DateAction where
  /-- The date stays. -/
  | keep
  /-- The date becomes the current day. -/
  | snapToToday
  /-- The date moves forward by the repeat rule. -/
  | advance
deriving DecidableEq, Repr

/-- A date that is not past stays; a past one moves by the rule if there is one. -/
def DateAction.decide (hasRule isPast : Bool) : DateAction :=
  if !isPast then .keep
  else if hasRule then .advance
  else .snapToToday

/-- The date under which a task is stored when it is created or edited on the day `now`. No date
stands for that day. The rule is read first, also where the date need not move. -/
def normalizeDate (now : Date) (stored repeatText : String) : Except Error String := do
  let rule ← Rule.parseOptional repeatText
  if stored = "" then return now.text
  let date ← readDate stored
  match DateAction.decide rule.isSome (date < now) with
  | .keep => return stored
  | .snapToToday => return now.text
  | .advance =>
    let next ← nextDateOfOptional now date rule
    return next.text

/-- What becomes of a completed task. -/
inductive Completion where
  /-- The task does not repeat and goes. -/
  | delete
  /-- The task repeats and stays, under a new date. -/
  | reschedule (date : Date)
deriving DecidableEq

/-- The outcome of completing a task with the given stored date and repeat rule. The date of a
task without a rule does not matter. -/
def complete (now : Date) (stored repeatText : String) : Except Error Completion := do
  match ← Rule.parseOptional repeatText with
  | none => return .delete
  | some rule =>
    let anchor ← readDate stored
    let next ← nextDate now anchor rule
    return .reschedule next

/-- One link of a chain of completions. -/
inductive ChainLink where
  /-- The task moved to the date with this text. -/
  | moved (date : String)
  /-- The chain ended, because the task is gone or completing it was refused. -/
  | ended (outcome : Except Error Completion)

/-- Completes a task up to `count` times, each time from the date of the time before. -/
def completionChain (now : Date) (repeatText : String) : (count : Nat) → (stored : String) →
    List ChainLink
  | 0, _ => []
  | count + 1, stored =>
    match complete now stored repeatText with
    | .ok (.reschedule date) => .moved date.text :: completionChain now repeatText count date.text
    | outcome => [.ended outcome]

end Agenda
