/-!
# Names in English dates

Days of the week, months and units of time are told by the first three letters of a word in any
case, and units also by the first letter of a shorter word. The other words have to be written in
full in small letters.
-/

namespace Agenda.DateExpression

/-- The small form of a letter, which for `İ` is an `i` with a dot above. -/
def smallLetter (c : Char) : List Char :=
  if c = '\u0130' then ['i', '\u0307'] else [c.toLower]

/-- A word in small letters. Letters without a small form among `a` to `z` do not matter for any
name. -/
def smallLetters (word : List Char) : List Char := word.flatMap smallLetter

/-- The day of the week that a word in small letters names, Monday = 1. -/
def weekday? (word : List Char) : Option Nat :=
  match word.take 3 with
  | ['m', 'o', 'n'] => some 1
  | ['t', 'u', 'e'] => some 2
  | ['w', 'e', 'd'] => some 3
  | ['t', 'h', 'u'] => some 4
  | ['f', 'r', 'i'] => some 5
  | ['s', 'a', 't'] => some 6
  | ['s', 'u', 'n'] => some 7
  | _ => none

/-- The month that a word in small letters names. -/
def month? (word : List Char) : Option Nat :=
  match word.take 3 with
  | ['j', 'a', 'n'] => some 1
  | ['f', 'e', 'b'] => some 2
  | ['m', 'a', 'r'] => some 3
  | ['a', 'p', 'r'] => some 4
  | ['m', 'a', 'y'] => some 5
  | ['j', 'u', 'n'] => some 6
  | ['j', 'u', 'l'] => some 7
  | ['a', 'u', 'g'] => some 8
  | ['s', 'e', 'p'] => some 9
  | ['o', 'c', 't'] => some 10
  | ['n', 'o', 'v'] => some 11
  | ['d', 'e', 'c'] => some 12
  | _ => none

/-- A unit of time. -/
inductive TimeUnit where
  | second
  | minute
  | hour
  | day
  | week
  | month
  | year
deriving DecidableEq, Repr

/-- The unit that a word of at most two bytes in small letters names. -/
def shortUnit? : List Char → Option TimeUnit
  | 's' :: _ => some .second
  | 'm' :: _ => some .minute
  | 'h' :: _ => some .hour
  | 'd' :: _ => some .day
  | 'w' :: _ => some .week
  | 'y' :: _ => some .year
  | _ => none

/-- The unit that a longer word in small letters names. -/
def longUnit? (word : List Char) : Option TimeUnit :=
  match word.take 3 with
  | ['s', 'e', 'c'] => some .second
  | ['m', 'i', 'n'] => some .minute
  | ['h', 'o', 'u'] => some .hour
  | ['d', 'a', 'y'] => some .day
  | ['w', 'e', 'e'] => some .week
  | ['m', 'o', 'n'] => some .month
  | ['y', 'e', 'a'] => some .year
  | _ => none

/-- The unit that a word in small letters names. -/
def unit? (word : List Char) : Option TimeUnit :=
  if (String.ofList word).utf8ByteSize < 3 then shortUnit? word else longUnit? word

/-- The days from the current one to a day with a word of its own. -/
def namedDay? : List Char → Option Int
  | ['n', 'o', 'w'] => some 0
  | ['t', 'o', 'd', 'a', 'y'] => some 0
  | ['y', 'e', 's', 't', 'e', 'r', 'd', 'a', 'y'] => some (-1)
  | ['t', 'o', 'm', 'o', 'r', 'r', 'o', 'w'] => some 1
  | _ => none

/-- A half of the day. -/
inductive HalfDay where
  | morning
  | afternoon
deriving DecidableEq, Repr

/-- The half of the day that a word names. -/
def halfDay? : List Char → Option HalfDay
  | ['a', 'm'] => some .morning
  | ['p', 'm'] => some .afternoon
  | _ => none

end Agenda.DateExpression
