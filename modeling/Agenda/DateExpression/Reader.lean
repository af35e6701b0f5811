import Agenda.DateExpression.Fault

/-!
# Steps of reading English dates

A step reads something from the start of what is left of a text, or fails for a reason.
-/

namespace Agenda.DateExpression

/-- A step of reading: what is left of the text is its state. -/
abbrev Reader := StateT (List Char) (Except Fault)

namespace Reader

/-- Reads the next token. -/
def token : Reader Token := modifyGet readToken

/-- Reads a character that comes next without a blank before it, and tells whether it did. -/
def skip (c : Char) : Reader Bool :=
  modifyGet fun cs => if cs.head? = some c then (true, cs.drop 1) else (false, cs)

/-- The number of a token, which has to fit 32 bits. -/
def numberOf : Token → Except Fault Nat
  | .number value => if value < Text.limit32 then .ok value else .error (.largeNumber value)
  | found => .error (.noNumber found)

/-- Reads a number. -/
def number : Reader Nat := do
  let found ← token
  numberOf found

/-- Reads a mark. -/
def mark : Reader Char := do
  match ← token with
  | .mark c => return c
  | found => throw (.noMark found)

/-- Reads the digits that come next without a blank before them. -/
def digits : Reader (List Char) :=
  modifyGet fun cs => (cs.takeWhile Char.isDigit, cs.dropWhile Char.isDigit)

end Reader

end Agenda.DateExpression
