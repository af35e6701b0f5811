import Agenda.DateExpression.Basic
import Agenda.DateExpression.Clock

/-!
# Reading dates in English

Expressions such as `tomorrow`, `next friday 8pm`, `4 july 2025`, `9/11`, `2024-03-01 10:00`,
`2 weeks` and `5 days ago`: a day, a time or both. In `9/11` the month comes first. A month takes
the token after it, whether or not that is a day; so do a day with its month, and a number of some
unit.
-/

namespace Agenda.DateExpression

/-- A year given by two digits lies from 1941 to 2040. -/
def fullYear (year : Nat) : Nat :=
  if 100 ≤ year then year else if 40 < year then 1900 + year else 2000 + year

/-- What has been read of an expression: its day, and a time of which a part has been read. -/
structure Draft where
  day : Option Day
  started : Option StartedTime := none
deriving DecidableEq, Repr

namespace Reader

/-- Reads what may follow a month that comes first. -/
def afterMonth (direction : Direction) (month : Nat) : Reader Day := do
  match ← token with
  | .number value =>
    let day ← numberOf (.number value)
    if ← skip ',' then return .exact (signed32 (← number)) month day
    else return .dayOfYear direction month day
  | _ => return .dayOfYear direction month 1

/-- Reads what may follow a number and a month. -/
def afterDayAndMonth (direction : Direction) (day month : Nat) : Reader Day := do
  match numberOf (← token) with
  | .ok year => return .exact (signed32 year) month day
  | .error _ => return .dayOfYear direction month day

/-- Reads what may follow a number of some unit. Behind a sign nothing may; otherwise the number may
be turned back by `ago`, or an hour may stand there. Numbers and hours are counted in 32 bits. -/
def afterUnit (negative : Bool) (number : Nat) (unit : TimeUnit) : Reader Draft := do
  let count := signed32 number
  if negative then return ⟨some (.distance (.ofUnits (signed32 (-count)) unit)), none⟩
  else
    let day (count : Int) : Option Day := some (.distance (.ofUnits count unit))
    match ← token with
    | .word ['a', 'g', 'o'] => return ⟨day (signed32 (-count)), none⟩
    | .word _ => throw .noAgo
    | .number hour => return ⟨day count, some (.hour (hour % Text.limit32))⟩
    | _ => return ⟨day count, none⟩

/-- Reads the rest of a date behind a number and a dash: the number is the year. -/
def afterDash (year : Nat) : Reader Day := do
  let month ← number
  match ← mark with
  | '-' => return .exact (signed32 year) month (← number)
  | found => throw (.noDash found)

/-- Reads the rest of a date behind a number and a slash: the number is the month. -/
def afterSlash (direction : Direction) (month : Nat) : Reader Day := do
  let day ← number
  if ← skip '/' then return .exact (signed32 (fullYear (← number))) month day
  else return .dayOfYear direction month day

/-- Reads what may follow a number and a word. -/
def afterNumberAndWord (direction : Direction) (negative : Bool) (number : Nat)
    (word : List Char) : Reader Draft := do
  match month? word, unit? word, halfDay? word with
  | some month, _, _ => return ⟨← afterDayAndMonth direction number month, none⟩
  | none, some unit, _ => afterUnit negative number unit
  | none, none, some half => return ⟨none, some (.half number half)⟩
  | none, none, none => throw .noMonthOrUnit

/-- Reads what may follow a number. Alone it is a year. -/
def afterNumber (direction : Direction) (negative : Bool) (number : Nat) : Reader Draft := do
  match ← token with
  | .ending => return ⟨some (.exact (signed32 number) 1 1), none⟩
  | .word word => afterNumberAndWord direction negative number (smallLetters word)
  | .mark '-' => return ⟨← afterDash number, none⟩
  | .mark '/' => return ⟨← afterSlash direction number, none⟩
  | .mark ':' => return ⟨none, some (.colon number)⟩
  | .mark '.' => return ⟨none, some (.point number)⟩
  | .mark found => throw (.strayMark found)
  | found => throw (.strayToken found)

/-- Reads a day, of which the first token has been read, behind its sign and direction. -/
def dayFrom (direction : Direction) (negative : Bool) : Token → Reader Draft
  | .word word =>
    let name := smallLetters word
    match weekday? name, month? name with
    | some weekday, _ => return ⟨some (.dayOfWeek direction weekday), none⟩
    | none, some month => return ⟨← afterMonth direction month, none⟩
    | none, none => throw .noDayOrMonth
  | .number value => do afterNumber direction negative (← numberOf (.number value))
  | found => throw (.noDate found)

/-- Reads a token that has to be there. -/
def tokenOr (fault : Fault) : Reader Token := do
  match ← token with
  | .ending => throw fault
  | found => return found

/-- Reads a sign, if there is one, and the token behind it. -/
def signedToken : Reader (Bool × Token) := do
  match ← tokenOr .nothing with
  | .mark '-' => return (true, ← tokenOr .nothingSigned)
  | found => return (false, found)

/-- Reads a day, and perhaps the start of a time. -/
def draft : Reader Draft := do
  let (negative, found) ← signedToken
  match found with
  | .word word =>
    match namedDay? word, direction? word with
    | some days, _ => return ⟨some (.distance (.days days)), none⟩
    | none, some direction => dayFrom direction negative (← tokenOr .nothingNamed)
    | none, none => dayFrom .here negative found
  | _ => dayFrom .here negative found

/-- Reads an expression. -/
def expression : Reader DateExpression := do
  let ⟨day, started⟩ ← draft
  match started with
  | some started => return ⟨day, ← restOfTime started⟩
  | none => return ⟨day, ← timeAfterDay⟩

end Reader

/-- Reads an expression. A text ends at the first null character. -/
def ofChars (cs : List Char) : Except Fault DateExpression :=
  (Reader.expression.run (cs.takeWhile (· ≠ '\x00'))).map (·.1)

/-- Reads an expression and says which date it comes to. -/
def dateOf (today : Calendar.Date) (cs : List Char) : Except Fault Calendar.Date :=
  (ofChars cs).bind (resolve today)

end Agenda.DateExpression
