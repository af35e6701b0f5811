import Agenda.DateExpression.Token

/-!
# Faults of English dates

Why a date in English cannot be read, or comes to no date.
-/

namespace Agenda.DateExpression

/-- Why a date expression cannot be read, or comes to no date. -/
inductive Fault where
  /-- There is nothing to read. -/
  | nothing
  /-- Nothing follows the sign. -/
  | nothingSigned
  /-- Nothing follows `next` or `last`. -/
  | nothingNamed
  /-- A word is no day of the week and no month. -/
  | noDayOrMonth
  /-- A word after a number is no month and no unit of time. -/
  | noMonthOrUnit
  /-- A distance is followed by a word other than `ago`. -/
  | noAgo
  /-- A date starts with something else than a number or a word. -/
  | noDate (found : Token)
  /-- A number is wanted. -/
  | noNumber (found : Token)
  /-- A number does not fit 32 bits. -/
  | largeNumber (value : Nat)
  /-- A mark is wanted. -/
  | noMark (found : Token)
  /-- A word is wanted. -/
  | noWord (found : Token)
  /-- No dash stands between the month and the day. -/
  | noDash (found : Char)
  /-- No colon or point stands behind an hour. -/
  | noTimeMark (found : Char)
  /-- Something other than a colon stands behind the minutes. -/
  | noColon
  /-- No digits stand behind the point of a fraction. -/
  | noFraction
  /-- A mark behind the seconds is no sign. -/
  | noOffset
  /-- A word behind a time is neither `am` nor `pm`. -/
  | noHalfDay
  /-- A mark behind a number has no meaning there. -/
  | strayMark (found : Char)
  /-- A token behind a number has no meaning there. -/
  | strayToken (found : Token)
  /-- The time does not exist. -/
  | badTime
  /-- The date does not exist. -/
  | badDate
  /-- A distance in months leads to a month that does not exist. -/
  | badMonth
deriving DecidableEq, Repr

namespace Fault

/-- A fault in words. -/
def message : Fault → String
  | nothing => "empty date string"
  | nothingSigned => "nothing after '-'"
  | nothingNamed => "nothing after last/next"
  | noDayOrMonth => "expected week day or month name"
  | noMonthOrUnit => "expected month or time unit"
  | noAgo => "only expected 'ago'"
  | noDate found => "not expected token " ++ found.shown
  | noNumber found => "expected integer, got " ++ found.shown
  | largeNumber value => s!"integer {value} is too large"
  | noMark found => "expected char, got " ++ found.shown
  | noWord found => "expected identifier, got " ++ found.shown
  | noDash found => s!"expected '-', got {found}"
  | noTimeMark found => s!"expected : or ., not {found}"
  | noColon => "expecting ':'"
  | noFraction => "expected fractional second after '.'"
  | noOffset => "expected +/- before timezone"
  | noHalfDay => "expected 'am' or 'pm'"
  | strayMark found => s!"unexpected char '{found}'"
  | strayToken found => "unexpected token " ++ found.shown
  | badTime => "bad time"
  | badDate | badMonth => "bad date"

/-- What is reported ahead of the error itself. -/
def notice : Fault → String
  | badMonth => "fkd date\n"
  | _ => ""

end Fault

end Agenda.DateExpression
