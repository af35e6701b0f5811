import Agenda.Text.Hex

/-!
# Tokens of JSON

A JSON text is a sequence of brackets, commas, colons, strings, numbers and the three words, with
blanks between them. `Token.chars` writes a token; `tokens?` splits a text into its tokens.

The escapes of a string may hold half of a surrogate pair, which no text has. Such a string is kept
as one that has no text.
-/

namespace Agenda.Json

/-- A token. The string without a text is the one whose escapes are no text. -/
inductive Token where
  | openBracket
  | closeBracket
  | openBrace
  | closeBrace
  | comma
  | colon
  | null
  | true
  | false
  | number (numeral : List Char)
  | string (text : Option String)
deriving DecidableEq, Repr

/-! ### Writing -/

/-- A character inside a string. Only the quote, the backslash and control characters are
escaped. -/
def escaped (c : Char) : List Char :=
  match c with
  | '"' => ['\\', '"']
  | '\\' => ['\\', '\\']
  | '\x08' => ['\\', 'b']
  | '\x0c' => ['\\', 'f']
  | '\n' => ['\\', 'n']
  | '\r' => ['\\', 'r']
  | '\t' => ['\\', 't']
  | c => if c.toNat < 0x20 then ['\\', 'u', '0', '0', Text.hexDigit (c.toNat / 16),
      Text.hexDigit c.toNat]
    else [c]

/-- A string with its quotes. -/
def quoted (text : String) : List Char := '"' :: text.toList.flatMap escaped ++ ['"']

/-- A string whose escapes are no text. -/
def quotedHalfPair : List Char := ['"', '\\', 'u', 'd', '8', '0', '0', '"']

/-- The text of a token. -/
def Token.chars : Token → List Char
  | openBracket => ['[']
  | closeBracket => [']']
  | openBrace => ['\x7b']
  | closeBrace => ['\x7d']
  | comma => [',']
  | colon => [':']
  | null => ['n', 'u', 'l', 'l']
  | true => ['t', 'r', 'u', 'e']
  | false => ['f', 'a', 'l', 's', 'e']
  | number numeral => numeral
  | string (some text) => quoted text
  | string none => quotedHalfPair

/-! ### Reading -/

/-- Whether a character may stand between tokens. -/
def isSpace (c : Char) : Bool := c = ' ' || c = '\t' || c = '\n' || c = '\r'

/-- The value of four hexadecimal digits. -/
def hexUnit? (a b c d : Char) : Option Nat := Text.hexNumber? [a, b, c, d]

/-- The character that an escape of one letter stands for. -/
def letterEscape? : Char → Option Char
  | '"' => some '"'
  | '\\' => some '\\'
  | '/' => some '/'
  | 'b' => some '\x08'
  | 'f' => some '\x0c'
  | 'n' => some '\n'
  | 'r' => some '\r'
  | 't' => some '\t'
  | _ => none

/-- The code points of a string behind its opening quote, and what follows its closing one.
Control characters have to be escaped. -/
def stringPoints? : List Char → Option (List Nat × List Char)
  | [] => none
  | '"' :: rest => some ([], rest)
  | '\\' :: 'u' :: a :: b :: c :: d :: rest => do
    let unit ← hexUnit? a b c d
    let (points, rest) ← stringPoints? rest
    return (unit :: points, rest)
  | '\\' :: letter :: rest => do
    let c ← letterEscape? letter
    let (points, rest) ← stringPoints? rest
    return (c.toNat :: points, rest)
  | c :: rest =>
    if c = '\\' ∨ c.toNat < 0x20 then none
    else do
      let (points, rest) ← stringPoints? rest
      return (c.toNat :: points, rest)

/-- Whether a code point is the first half of a surrogate pair. -/
def isHighSurrogate (point : Nat) : Bool := 0xD800 ≤ point && point < 0xDC00

/-- Whether a code point is the second half of a surrogate pair. -/
def isLowSurrogate (point : Nat) : Bool := 0xDC00 ≤ point && point < 0xE000

/-- The characters of a list of code points, in which halves of surrogate pairs come in pairs. -/
def textOfPoints? : List Nat → Option (List Char)
  | [] => some []
  | high :: low :: points =>
    if isHighSurrogate high then
      if isLowSurrogate low then
        (textOfPoints? points).map
          (Char.ofNat (0x10000 + (high - 0xD800) * 0x400 + (low - 0xDC00)) :: ·)
      else none
    else if isLowSurrogate high then none
    else (textOfPoints? (low :: points)).map (Char.ofNat high :: ·)
  | [point] =>
    if isHighSurrogate point || isLowSurrogate point then none else some [Char.ofNat point]

/-- Splits off a run of digits, at least one. -/
def digitRun? (cs : List Char) : Option (List Char × List Char) :=
  match cs.takeWhile Char.isDigit with
  | [] => none
  | run => some (run, cs.dropWhile Char.isDigit)

/-- The whole part of a number: zero, or digits that do not start with it. -/
def wholePart? (cs : List Char) : Option (List Char × List Char) :=
  match cs with
  | '0' :: rest => some (['0'], rest)
  | _ => digitRun? cs

/-- The part of a number behind a point, if there is one. -/
def fractionPart? (cs : List Char) : Option (List Char × List Char) :=
  match cs with
  | '.' :: rest => (digitRun? rest).map fun (run, rest) => ('.' :: run, rest)
  | _ => some ([], cs)

/-- The exponent of a number, if there is one. -/
def exponentPart? (cs : List Char) : Option (List Char × List Char) :=
  match cs with
  | e :: sign :: rest =>
    if e ≠ 'e' ∧ e ≠ 'E' then some ([], cs)
    else if sign = '+' ∨ sign = '-' then
      (digitRun? rest).map fun (run, rest) => (e :: sign :: run, rest)
    else (digitRun? (sign :: rest)).map fun (run, rest) => (e :: run, rest)
  | [e] => if e ≠ 'e' ∧ e ≠ 'E' then some ([], cs) else none
  | [] => some ([], [])

/-- Splits off a number. -/
def number? (cs : List Char) : Option (List Char × List Char) := do
  let (sign, rest) := match cs with
    | '-' :: rest => (['-'], rest)
    | _ => ([], cs)
  let (whole, rest) ← wholePart? rest
  let (fraction, rest) ← fractionPart? rest
  let (exponent, rest) ← exponentPart? rest
  return (sign ++ whole ++ fraction ++ exponent, rest)

/-- Splits off the first token of a text that starts with one. -/
def token? : List Char → Option (Token × List Char)
  | '[' :: rest => some (.openBracket, rest)
  | ']' :: rest => some (.closeBracket, rest)
  | '\x7b' :: rest => some (.openBrace, rest)
  | '\x7d' :: rest => some (.closeBrace, rest)
  | ',' :: rest => some (.comma, rest)
  | ':' :: rest => some (.colon, rest)
  | 'n' :: 'u' :: 'l' :: 'l' :: rest => some (.null, rest)
  | 't' :: 'r' :: 'u' :: 'e' :: rest => some (.true, rest)
  | 'f' :: 'a' :: 'l' :: 's' :: 'e' :: rest => some (.false, rest)
  | '"' :: rest => do
    let (points, rest) ← stringPoints? rest
    return (.string ((textOfPoints? points).map String.ofList), rest)
  | cs => (number? cs).map fun (numeral, rest) => (.number numeral, rest)

/-- The tokens of a text, of which at most `most` are split off. -/
def tokensUpTo? : (most : Nat) → List Char → Option (List Token)
  | most, cs =>
    match cs.dropWhile isSpace, most with
    | [], _ => some []
    | _ :: _, 0 => none
    | c :: rest, most + 1 => do
      let (token, rest) ← token? (c :: rest)
      let tokens ← tokensUpTo? most rest
      return token :: tokens

/-- The tokens of a text. A token has at least one character. -/
def tokens? (cs : List Char) : Option (List Token) := tokensUpTo? cs.length cs

end Agenda.Json
