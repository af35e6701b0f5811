import Agenda.Text.Hex

/-!
# Escapes in quoted strings

Configuration strings between double quotes write control characters, quotes, backslashes and code
points with a backslash.
-/

namespace Agenda.Text

/-- The character that an escape of one letter stands for. -/
def escapeLetter? : Char → Option Char
  | '"' => some '"'
  | '\\' => some '\\'
  | 'b' => some '\x08'
  | 'f' => some '\x0c'
  | 'n' => some '\n'
  | 'r' => some '\r'
  | 't' => some '\t'
  | _ => none

/-- The character of the escape that follows a backslash, and what is left behind it. -/
def escape? : List Char → Option (Char × List Char)
  | 'u' :: a :: b :: c :: d :: rest => (hexChar? [a, b, c, d]).map (·, rest)
  | 'U' :: a :: b :: c :: d :: e :: f :: g :: h :: rest =>
    (hexChar? [a, b, c, d, e, f, g, h]).map (·, rest)
  | letter :: rest => (escapeLetter? letter).map (·, rest)
  | [] => none

/-- Whether a character may stand in a string as it is: a tab, and whatever is no control
character. -/
def isPlain (c : Char) : Bool := c = '\t' || (0x20 ≤ c.toNat && c.toNat ≠ 0x7F)

/-- The characters of a quoted string behind its opening quote, of which at most `most` are read,
and what is left behind its closing quote. -/
def quotedUpTo? : (most : Nat) → List Char → Option (List Char × List Char)
  | _, '"' :: rest => some ([], rest)
  | most + 1, '\\' :: rest => do
    let (c, rest) ← escape? rest
    let (cs, rest) ← quotedUpTo? most rest
    return (c :: cs, rest)
  | most + 1, c :: rest =>
    if isPlain c then (quotedUpTo? most rest).map fun (cs, rest) => (c :: cs, rest) else none
  | _, _ => none

/-- The characters of a quoted string behind its opening quote, and what is left behind its closing
quote. -/
def quoted? (cs : List Char) : Option (List Char × List Char) := quotedUpTo? cs.length cs

end Agenda.Text
