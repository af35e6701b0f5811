/-!
# Patterns with wildcards

In a pattern `%` stands for any run of characters and `_` for exactly one; every other character
stands for itself, with ASCII letters compared without regard to case. Text and pattern count up
to the first NUL character only. No text is compared with a pattern of too many bytes.
-/

namespace Agenda.Text

/-- How many bytes a text has in UTF-8. -/
def byteCount (cs : List Char) : Nat := (String.ofList cs).utf8ByteSize

/-- The most bytes of a pattern; those behind a NUL character count as well. -/
def longestPattern : Nat := 50000

/-- What of a text takes part in a comparison: all before the first NUL. -/
def beforeNul (cs : List Char) : List Char := cs.takeWhile (· ≠ '\x00')

/-- The form in which two characters are compared: ASCII capitals count as small letters, and the
last two code points of the basic plane as the replacement character. -/
def fold (c : Char) : Char :=
  if c = '\ufffe' ∨ c = '\uffff' then '\ufffd' else c.toLower

/-- Whether a test holds of some final part of a text, the whole and the empty one included. -/
def anyTail (test : List Char → Bool) : List Char → Bool
  | [] => test []
  | c :: cs => test (c :: cs) || anyTail test cs

/-- Whether a pattern matches a whole text. -/
def matchesWhole : (pattern text : List Char) → Bool
  | [], text => text.isEmpty
  | '%' :: pattern, text => anyTail (matchesWhole pattern) text
  | _ :: _, [] => false
  | '_' :: pattern, _ :: text => matchesWhole pattern text
  | p :: pattern, c :: text => fold p == fold c && matchesWhole pattern text

/-- Whether a text is like a pattern. -/
def isLike (pattern text : List Char) : Bool := matchesWhole (beforeNul pattern) (beforeNul text)

end Agenda.Text
