import Agenda.Text.Blank
import Agenda.Text.Numeral
import Agenda.Calendar.Date

/-!
# Dates as text

The stored form is year, month and day run together in eight digits. A year outside 0 to 9999 is
written with its sign, and such a text is not read back. A search term may name a date in a looser
form, day, month and year between dots.
-/

namespace Agenda.Calendar

open Agenda.Text

/-- A year in four digits; one outside 0 to 9999 has its sign in front and may be longer. -/
def yearText (year : Int) : List Char :=
  if 0 ≤ year ∧ year ≤ 9999 then zeroPadded 4 year.toNat
  else if year < 0 then '-' :: zeroPadded 4 year.natAbs
  else '+' :: zeroPadded 4 year.natAbs

namespace Date

/-- The characters of the stored form. -/
def chars (date : Date) : List Char :=
  yearText date.year ++ zeroPadded 2 date.month ++ zeroPadded 2 date.day

/-- The stored form of a date. -/
def text (date : Date) : String := String.ofList date.chars

/-- Reads the stored form: exactly eight digits that name a date. -/
def ofChars? (cs : List Char) : Option Date :=
  if cs.length = 8 then do
    let year ← readNat? (cs.take 4)
    let month ← readNat? ((cs.drop 4).take 2)
    let day ← readNat? (cs.drop 6)
    ofCivil? year month day
  else none

/-- Reads the stored form of a date. -/
def ofText? (text : String) : Option Date := ofChars? text.toList

end Date

/-- Reads one to `most` digits after any blanks; gives the number and the rest. -/
def leadingNumber? (most : Nat) (cs : List Char) : Option (Nat × List Char) :=
  let rest := cs.dropWhile isBlank
  let run := (rest.take most).takeWhile Char.isDigit
  (readNat? run).map fun n => (n, rest.drop run.length)

/-- Reads the year of a search date, which ends the text: at most four digits, or any number of
them behind a sign. -/
def searchYear? (cs : List Char) : Option Int :=
  match cs.dropWhile isBlank with
  | '-' :: rest => (readNat? rest).map fun n => -(n : Int)
  | '+' :: rest => (readNat? rest).map Int.ofNat
  | rest => if rest.length ≤ 4 then (readNat? rest).map Int.ofNat else none

/-- Reads a search date: day, month and year with a dot directly after the first two. Blanks may
stand before each number. -/
def searchDate? (cs : List Char) : Option Date :=
  match leadingNumber? 2 cs with
  | some (day, '.' :: rest) =>
    match leadingNumber? 2 rest with
    | some (month, '.' :: rest) =>
      (searchYear? rest).bind fun year => Date.ofCivil? year month day
    | _ => none
  | _ => none

end Agenda.Calendar
