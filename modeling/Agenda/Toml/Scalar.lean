import Agenda.Calendar.Gregorian
import Agenda.Text.Hex
import Agenda.Text.Numeral
import Agenda.Toml.Table

/-!
# Plain values of TOML

Numbers, truth values, dates and times, each told from its whole text.
-/

namespace Agenda.Toml

/-- A run of digits of some kind, in which single underscores may stand between two digits; without
the underscores. -/
def digitsOf? (isDigit : Char → Bool) (cs : List Char) : Option (List Char) :=
  let groups := cs.splitOn '_'
  if groups.all fun group => !group.isEmpty && group.all isDigit then some groups.flatten else none

/-- A text without its sign, and whether the number is negative. -/
def unsigned : List Char → Bool × List Char
  | '-' :: cs => (true, cs)
  | '+' :: cs => (false, cs)
  | cs => (false, cs)

/-- Decimal digits that do not start with a superfluous zero. -/
def wholeDigits? (cs : List Char) : Option (List Char) :=
  (digitsOf? Char.isDigit cs).filter fun digits =>
    match digits with
    | '0' :: _ :: _ => false
    | _ => true

/-- The number that digits give in a base. -/
def numberIn (base : Nat) (digits : List Char) : Nat :=
  digits.foldl (fun n c => base * n + (Text.hexValue? c).getD 0) 0

/-- Whether a character is a digit in a base. -/
def isDigitIn (base : Nat) (c : Char) : Bool := (Text.hexValue? c).any (· < base)

/-- A whole number: in decimal with at most one sign, or behind `0x`, `0o` or `0b`. -/
def integer? (cs : List Char) : Option Int :=
  match cs with
  | '0' :: 'x' :: digits => (digitsOf? (isDigitIn 16) digits).map fun ds => (numberIn 16 ds : Nat)
  | '0' :: 'o' :: digits => (digitsOf? (isDigitIn 8) digits).map fun ds => (numberIn 8 ds : Nat)
  | '0' :: 'b' :: digits => (digitsOf? (isDigitIn 2) digits).map fun ds => (numberIn 2 ds : Nat)
  | _ =>
    let (negative, digits) := unsigned cs
    (wholeDigits? digits).map fun ds =>
      if negative then -(numberIn 10 ds : Int) else (numberIn 10 ds : Int)

/-- The number that the exponent of a number gives, behind its letter. Leading zeros are fine. -/
def exponent? (cs : List Char) : Option Int :=
  let (negative, digits) := unsigned cs
  (digitsOf? Char.isDigit digits).map fun ds =>
    if negative then -(numberIn 10 ds : Int) else (numberIn 10 ds : Int)

/-- A number with a fraction or an exponent: its digits as a whole number and a power of ten. -/
structure Decimal where
  negative : Bool
  digits : Nat
  exponent : Int
deriving DecidableEq, Repr

namespace Decimal

/-- The least number that is nearer to the first power of two beyond a double float than to the
greatest one, or as near to both. -/
def floatLimit : Nat := Nat.pow 2 1024 - Nat.pow 2 970

/-- Whether the size of a number is beyond the double floats. A number of over 310 places before the
point is, and one of under 308 is not. -/
def isHuge (decimal : Decimal) : Bool :=
  let places := ((Text.digits decimal.digits).length : Int) + decimal.exponent
  if decimal.digits = 0 || places < 308 then false
  else if 310 < places then true
  else if 0 ≤ decimal.exponent then
    decide (floatLimit ≤ decimal.digits * Nat.pow 10 decimal.exponent.toNat)
  else decide (floatLimit * Nat.pow 10 (-decimal.exponent).toNat ≤ decimal.digits)

/-- Whether the number may stand in a document: a negative one of any size counts as a float, but a
positive one must not round to infinity. -/
def isAllowed (decimal : Decimal) : Bool := decimal.negative || !decimal.isHuge

end Decimal

/-- A number with a fraction or an exponent. The whole part must not start with a superfluous zero,
and both parts beside a point have digits. -/
def decimal? (cs : List Char) : Option Decimal := do
  let (negative, body) := unsigned cs
  let isExponentMark (c : Char) : Bool := c = 'e' || c = 'E'
  let exponent ← match body.dropWhile (!isExponentMark ·) with
    | [] => some none
    | _ :: rest => (exponent? rest).map some
  match (body.takeWhile (!isExponentMark ·)).splitOn '.', exponent with
  | [whole], some exponent =>
    return ⟨negative, numberIn 10 (← wholeDigits? whole), exponent⟩
  | [whole, fraction], exponent =>
    let whole ← wholeDigits? whole
    let fraction ← digitsOf? Char.isDigit fraction
    return ⟨negative, numberIn 10 (whole ++ fraction), exponent.getD 0 - fraction.length⟩
  | _, _ => none

/-- Whether a text is infinity or no number. -/
def isSpecial (cs : List Char) : Bool :=
  let body := (unsigned cs).2
  body = ['i', 'n', 'f'] || body = ['n', 'a', 'n']

/-- Whether a text is a number with a fraction or an exponent, or infinity or no number. -/
def isFloat (cs : List Char) : Bool := isSpecial cs || (decimal? cs).any Decimal.isAllowed

/-- The number of exactly so many digits. -/
def fixed? (count : Nat) (cs : List Char) : Option Nat :=
  if cs.length = count then Text.readNat? cs else none

/-- Whether a text is a date. -/
def isDate (cs : List Char) : Bool :=
  match cs.splitOn '-' with
  | [year, month, day] =>
    match fixed? 4 year, fixed? 2 month, fixed? 2 day with
    | some year, some month, some day => 1 ≤ day && day ≤ Calendar.monthLength year month
    | _, _, _ => false
  | _ => false

/-- Whether a text is seconds, perhaps with a fraction. -/
def isSeconds (cs : List Char) : Bool :=
  match cs.splitOn '.' with
  | [seconds] => (fixed? 2 seconds).any (· ≤ 60)
  | [seconds, fraction] => (fixed? 2 seconds).any (· ≤ 60) && (Text.readNat? fraction).isSome
  | _ => false

/-- Whether a text is a time of the day. -/
def isTime (cs : List Char) : Bool :=
  match cs.splitOn ':' with
  | [hour, minute, seconds] =>
    (fixed? 2 hour).any (· ≤ 23) && (fixed? 2 minute).any (· ≤ 59) && isSeconds seconds
  | _ => false

/-- Whether a text is hours and minutes. -/
def isOffset (cs : List Char) : Bool :=
  match cs.splitOn ':' with
  | [hour, minute] => (fixed? 2 hour).any (· ≤ 23) && (fixed? 2 minute).any (· ≤ 59)
  | _ => false

/-- Whether a text is a time, perhaps with its distance from universal time. -/
def isTimeWithOffset (cs : List Char) : Bool :=
  match cs.getLast? with
  | some 'Z' | some 'z' => isTime cs.dropLast
  | _ =>
    match cs.splitOn '+', cs.splitOn '-' with
    | [time, offset], [_] => isTime time && isOffset offset
    | [_], [time, offset] => isTime time && isOffset offset
    | _, _ => isTime cs

/-- Whether a text is a date, a time, or both with a letter `T` or a space between. -/
def isDateTime (cs : List Char) : Bool :=
  isDate cs || isTime cs ||
    match cs.drop 10 with
    | separator :: time =>
      (separator = 'T' || separator = 't' || separator = ' ') && isDate (cs.take 10) &&
        isTimeWithOffset time
    | [] => false

/-- The plain value that a text is. -/
def scalar? (cs : List Char) : Option Value :=
  if cs = ['t', 'r', 'u', 'e'] || cs = ['f', 'a', 'l', 's', 'e'] then some .other
  else
    match integer? cs with
    | some n => if Text.IsInt64 n then some (.integer n) else none
    | none => if isFloat cs || isDateTime cs then some .other else none

end Agenda.Toml
