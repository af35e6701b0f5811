import Agenda.Text.Blank
import Agenda.Text.Hex
import Agenda.Text.Letter
import Agenda.Text.Numeral

/-!
# Tokens of English dates

A date in English is read token by token: numbers, words, quoted texts and single marks, with any
blanks before them. `length_readToken` says that reading a token never adds to what is left.
-/

namespace Agenda.DateExpression

/-- A token of a date expression. -/
inductive Token where
  /-- The end of the text. -/
  | ending
  /-- A number that fits a signed 64-bit word. -/
  | number (value : Nat)
  /-- A numeral that does not, or one without digits. -/
  | badNumber
  /-- A letter or underscore and the letters, digits and underscores after it. -/
  | word (letters : List Char)
  /-- A text between quotes of one kind. -/
  | quoted (text : List Char)
  /-- Any other character. -/
  | mark (character : Char)
deriving DecidableEq, Repr

/-- A token as a message shows it. -/
def Token.shown : Token → String
  | ending => "End"
  | number value => s!"Int({value})"
  | badNumber => "Error"
  | word letters => "Iden(\"" ++ String.ofList letters ++ "\")"
  | quoted text => "Str(\"" ++ String.ofList text ++ "\")"
  | mark character => s!"Char('{character}')"

/-- Whether a character can start a word. -/
def startsWord (c : Char) : Bool := c = '_' || Text.isLetter c

/-- Whether a character can continue a word. -/
def continuesWord (c : Char) : Bool := startsWord c || Text.isNumber c

/-- Whether a character opens a quoted text, which the same character closes. -/
def isQuote (c : Char) : Bool := c = '"' || c = '\''

/-- Whether a character marks a numeral as hexadecimal behind a zero. -/
def isHexMark (c : Char) : Bool := c = 'x' || c = 'X'

/-- Whether a character is a hexadecimal digit. -/
def isHexDigit (c : Char) : Bool := (Text.hexValue? c).isSome

/-- The token of a number. -/
def numberToken (value : Nat) : Token :=
  if Text.IsInt64 value then .number value else .badNumber

/-- The token of a hexadecimal numeral, behind its mark. -/
def hexToken (digits : List Char) : Token :=
  if digits = [] then .badNumber else ((Text.hexNumber? digits).map numberToken).getD .badNumber

/-- The token that starts with a character that is no blank, and what is left behind it. -/
def tokenFrom (c : Char) (cs : List Char) : Token × List Char :=
  if c = '0' && cs.head?.any isHexMark then
    (hexToken ((cs.drop 1).takeWhile isHexDigit), (cs.drop 1).dropWhile isHexDigit)
  else if c.isDigit then
    (numberToken (Nat.ofDigitChars 10 (c :: cs.takeWhile Char.isDigit) 0),
      cs.dropWhile Char.isDigit)
  else if isQuote c then (.quoted (cs.takeWhile (· ≠ c)), (cs.dropWhile (· ≠ c)).drop 1)
  else if startsWord c then (.word (c :: cs.takeWhile continuesWord), cs.dropWhile continuesWord)
  else (.mark c, cs)

/-- The first token of a text behind any blanks, and what is left behind it. -/
def readToken (cs : List Char) : Token × List Char :=
  match cs.dropWhile Text.isBlank with
  | [] => (.ending, [])
  | c :: rest => tokenFrom c rest

/-- The rest behind a token is no longer than what follows its first character. -/
private theorem length_tokenFrom (c : Char) (cs : List Char) :
    (tokenFrom c cs).2.length ≤ cs.length := by
  have hdrop (p : Char → Bool) (ds : List Char) : (ds.dropWhile p).length ≤ ds.length :=
    (List.dropWhile_sublist p).length_le
  unfold tokenFrom
  split
  · exact Nat.le_trans (hdrop _ _) (by rw [List.length_drop]; exact Nat.sub_le _ _)
  · split
    · exact hdrop _ _
    · split
      · rw [List.length_drop]
        exact Nat.le_trans (Nat.sub_le _ _) (hdrop _ _)
      · split
        · exact hdrop _ _
        · exact Nat.le_refl _

/-- Every token but the end takes at least one character. -/
theorem length_readToken (cs : List Char) :
    (readToken cs).1 = .ending ∧ (readToken cs).2 = [] ∨
      (readToken cs).2.length < cs.length := by
  unfold readToken
  cases h : cs.dropWhile Text.isBlank with
  | nil => exact .inl ⟨rfl, rfl⟩
  | cons c rest =>
    have hle : (c :: rest).length ≤ cs.length := h ▸ (List.dropWhile_sublist _).length_le
    exact .inr (Nat.lt_of_le_of_lt (length_tokenFrom c rest) hle)

end Agenda.DateExpression
