import Agenda.DateExpression.Name
import Agenda.DateExpression.Reader
import Agenda.DateExpression.TimeOfDay

/-!
# Reading times of the day

Times such as `10:30`, `10:30:15.5 +01:00`, `8.20 pm` and `7am`. The part behind an hour tells the
kind of time: a colon starts minutes and perhaps seconds and an offset, a point starts minutes, and
a word is the half of the day.
-/

namespace Agenda.DateExpression

/-- An hour in a half of the day. Hours are counted in 32 bits. -/
def HalfDay.hour (hour : Nat) : HalfDay → Nat
  | morning => hour
  | afternoon => (hour + 12) % Text.limit32

/-- What is known of a time before it is read to its end. -/
inductive StartedTime where
  /-- An hour with nothing behind it yet. -/
  | hour (hour : Nat)
  /-- An hour and a colon. -/
  | colon (hour : Nat)
  /-- An hour and a point. -/
  | point (hour : Nat)
  /-- An hour in a half of the day. -/
  | half (hour : Nat) (half : HalfDay)
deriving DecidableEq, Repr

/-- Whether the digits of a fraction are so close to 1 that the nearest number with 53 binary digits
is 1. -/
def isWholeFraction (digits : List Char) : Bool :=
  let scale := Nat.pow 10 digits.length
  decide ((scale - Nat.ofDigitChars 10 digits 0) * 18014398509481984 ≤ scale)

namespace Reader

/-- The half of the day that a word has to name. -/
def halfDayOf (word : List Char) : Except Fault HalfDay :=
  match halfDay? word with
  | some half => .ok half
  | none => .error .noHalfDay

/-- Reads how far a clock is from universal time behind the sign, in seconds: hours and minutes with
a colon between, or their digits together. The seconds are counted in 32 bits. -/
def offset : Reader Nat := do
  let hours ← number
  let (hours, minutes) ←
    if ← skip ':' then pure (hours, ← number) else pure (hours / 100, hours % 100)
  return (60 * (minutes + 60 * hours)) % Text.limit32

/-- What a token behind the minutes or seconds makes of a time. What follows it is not looked at. -/
def timeBefore (time : TimeOfDay) : Token → Reader TimeOfDay
  | .mark '+' => return { time with offset := ← offset }
  | .mark '-' => return { time with offset := -(← offset : Int) }
  | .mark _ => throw .noOffset
  | .word ['Z'] => return time
  | .word word => return { time with hour := (← halfDayOf word).hour time.hour }
  | _ => return time

/-- Reads the rest of a time behind its seconds. -/
def afterSeconds (time : TimeOfDay) : Reader TimeOfDay := do
  match ← token with
  | .mark '.' =>
    match ← digits with
    | [] => throw .noFraction
    | fraction => timeBefore { time with wholeFraction := isWholeFraction fraction } (← token)
  | found => timeBefore time found

/-- Reads the rest of a time behind its hour and a colon. -/
def afterColon (hour : Nat) : Reader TimeOfDay := do
  let minute ← number
  match ← token with
  | .mark ':' => afterSeconds { hour, minute, second := ← number }
  | .mark _ => throw .noColon
  | found => timeBefore { hour, minute } found

/-- Reads the rest of a time behind its hour and a point. -/
def afterPoint (hour : Nat) : Reader TimeOfDay := do
  let minute ← number
  match ← token with
  | .ending => return { hour, minute }
  | .word word => return { hour := (← halfDayOf word).hour hour, minute }
  | found => throw (.noWord found)

/-- Reads the rest of a time. -/
def restOfTime : StartedTime → Reader TimeOfDay
  | .colon hour => afterColon hour
  | .point hour => afterPoint hour
  | .half hour half => return { hour := half.hour hour }
  | .hour hour => do
    match ← mark with
    | ':' => afterColon hour
    | '.' => afterPoint hour
    | found => throw (.noTimeMark found)

/-- Reads a time that may follow a day, perhaps with a `T` directly behind the day. -/
def timeAfterDay : Reader (Option TimeOfDay) := do
  let _ ← skip 'T'
  match ← token with
  | .ending => return none
  | found =>
    let hour ← numberOf found
    match ← token with
    | .mark ':' => afterColon hour
    | .mark '.' => afterPoint hour
    | .mark found => throw (.strayMark found)
    | .word word => return some { hour := (← halfDayOf word).hour hour }
    | found => throw (.strayToken found)

end Reader

end Agenda.DateExpression
