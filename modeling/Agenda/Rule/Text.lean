import Agenda.Error
import Agenda.Rule.Basic

/-!
# The text of a repeat rule

A rule is written as a letter and its arguments between single spaces: `d 5`, `y`, `w 1,3`,
`m 1,-1`, `m -2 1,7`. Writing is canonical, each list ascending and without repeats. Reading takes
lists in any order and names the first fault it meets.
-/

namespace Agenda

namespace Rule

/-- The characters of a rule's canonical text. -/
def chars : Rule → List Char
  | daily interval => 'd' :: ' ' :: Text.decimal interval
  | yearly => ['y']
  | weekly weekdays => 'w' :: ' ' :: weekdays.chars
  | monthly days months =>
    if months.isEmpty then 'm' :: ' ' :: days.chars
    else 'm' :: ' ' :: days.chars ++ ' ' :: months.chars

/-- The canonical text of a rule. -/
def text (rule : Rule) : String := String.ofList rule.chars

/-- Reads the interval of a daily rule. -/
def readInterval (token : List Char) : Except Error Nat :=
  match Text.readInt64? token with
  | none => .error (.invalidArgument (.unreadableInterval (String.ofList token)))
  | some value =>
    if longestInterval < value then .error (.intervalTooLong value)
    else if value ≤ 0 then .error (.invalidArgument (.nonPositiveInterval value))
    else .ok value.toNat

/-- Reads one entry of a list. -/
def readEntry {α : Type} (kind : EntryKind) (convert : Int → Option α) (entry : List Char) :
    Except Error α :=
  match (Text.readInt64? entry).bind convert with
  | some a => .ok a
  | none => .error (.invalidArgument (.badEntry kind (String.ofList entry)))

/-- Reads the entries of a list in order, up to the first bad one. -/
def readEntries {α : Type} (kind : EntryKind) (convert : Int → Option α) :
    List (List Char) → Except Error (List α)
  | [] => .ok []
  | entry :: entries =>
    match readEntry kind convert entry with
    | .error e => .error e
    | .ok a => (readEntries kind convert entries).map (a :: ·)

/-- Reads a set of numbers between commas. -/
def readSet {α : Type} [Numbered α] (kind : EntryKind) (convert : Int → Option α)
    (list : List Char) : Except Error (NumberSet α) :=
  (readEntries kind convert (list.splitOn ',')).map NumberSet.ofList

/-- A number from 1 to `most`. -/
def countUpTo? (most : Nat) (n : Int) : Option Nat :=
  if 1 ≤ n ∧ n ≤ most then some n.toNat else none

/-- Reads the days of the week of a weekly rule. -/
def readWeekdays (list : List Char) : Except Error (NumberSet Nat) :=
  readSet .weekday (countUpTo? 7) list

/-- Reads the days of a monthly rule. -/
def readDays (list : List Char) : Except Error (NumberSet DaySelector) :=
  readSet .day DaySelector.ofValue? list

/-- Reads the months of a monthly rule. -/
def readMonths (list : List Char) : Except Error (NumberSet Nat) :=
  readSet .month (countUpTo? 12) list

/-- The letters that start a rule. -/
inductive Kind where
  | daily
  | yearly
  | weekly
  | monthly
deriving DecidableEq, Repr

/-- The letter of a kind of rule. -/
def Kind.letter : Kind → Char
  | daily => 'd'
  | yearly => 'y'
  | weekly => 'w'
  | monthly => 'm'

/-- The kind of rule that a first word names. -/
def Kind.ofToken? : List Char → Option Kind
  | ['d'] => some daily
  | ['y'] => some yearly
  | ['w'] => some weekly
  | ['m'] => some monthly
  | _ => none

/-- Reads the arguments of a rule of a known kind; `text` is the whole rule. -/
def readArguments (text : String) : Kind → List (List Char) → Except Error Rule
  | .daily, [interval] => (readInterval interval).map .daily
  | .yearly, [] => .ok .yearly
  | .weekly, [list] => (readWeekdays list).map .weekly
  | .monthly, [list] => (readDays list).map (.monthly · .empty)
  | .monthly, [dayList, monthList] =>
    match readDays dayList with
    | .error e => .error e
    | .ok days => (readMonths monthList).map (.monthly days)
  | kind, _ =>
    .error (.invalidArgument (.wrongCount (String.singleton kind.letter) text))

/-- Reads a rule. The empty text is told apart from a wrong one. -/
def parse (text : String) : Except Error Rule :=
  if text = "" then .error .emptyRule
  else
    match text.toList.splitOn ' ' with
    | [] => .error .emptyRule
    | token :: arguments =>
      match Kind.ofToken? token with
      | none => .error (.unknownRuleKind (String.ofList token))
      | some kind => readArguments text kind arguments

/-- Reads a rule, where the empty text stands for no rule. -/
def parseOptional (text : String) : Except Error (Option Rule) :=
  if text = "" then .ok none else (parse text).map some

end Rule

end Agenda
