import Agenda.Text.Escape
import Agenda.Toml.Scalar

/-!
# Reading TOML documents

A document is read line by line: headers open tables, and keys give values in the table opened last.
A document is either read as a whole or not at all.
-/

namespace Agenda.Toml

/-! ### Blanks and comments -/

/-- Whether a character is a blank within a line. -/
def isSpace (c : Char) : Bool := c = ' ' || c = '\t'

/-- What is left after the blanks of a line. -/
def skipSpace (cs : List Char) : List Char := cs.dropWhile isSpace

/-- What is left at the end of a comment, whose mark has been read. -/
def skipComment (cs : List Char) : List Char := cs.dropWhile Text.isPlain

/-- What is left behind the blanks and the comment that may end a line. -/
def skipLineEnd (cs : List Char) : List Char :=
  match skipSpace cs with
  | '#' :: rest => skipComment rest
  | rest => rest

/-- What is left behind a line break. -/
def behindBreak? : List Char → Option (List Char)
  | '\n' :: rest => some rest
  | '\r' :: '\n' :: rest => some rest
  | _ => none

/-- What is left behind any blanks, comments and line breaks, of which at most `most` lines are
skipped. -/
def skipLinesUpTo : (most : Nat) → List Char → List Char
  | 0, cs => cs
  | most + 1, cs =>
    match behindBreak? (skipLineEnd cs) with
    | some rest => skipLinesUpTo most rest
    | none => skipLineEnd cs

/-- What is left behind any blanks, comments and line breaks. -/
def skipLines (cs : List Char) : List Char := skipLinesUpTo cs.length cs

/-! ### Strings -/

/-- A string between single quotes, behind the opening one. -/
def literal? (cs : List Char) : Option (List Char × List Char) :=
  let isInside (c : Char) : Bool := c ≠ '\'' && Text.isPlain c
  match cs.dropWhile isInside with
  | '\'' :: rest => some (cs.takeWhile isInside, rest)
  | _ => none

/-- What is left behind a line break that follows the opening quotes of a string directly. -/
def skipFirstBreak (cs : List Char) : List Char := (behindBreak? cs).getD cs

/-- What is left behind blanks and line breaks. -/
def skipBlankLines : List Char → List Char
  | '\r' :: '\n' :: rest => skipBlankLines rest
  | c :: rest => if isSpace c || c = '\n' then skipBlankLines rest else c :: rest
  | [] => []

/-- What is left behind a backslash that ends its line, and the blank lines after it. -/
def behindLineEscape? (cs : List Char) : Option (List Char) :=
  (behindBreak? (skipSpace cs)).map skipBlankLines

/-- A string of several lines behind its opening quotes, of which at most `most` characters are
read. Three quotes close it, and up to two more directly before them belong to it. -/
def longString? (quote : Char) : (most : Nat) → List Char → Option (List Char × List Char)
  | 0, _ => none
  | most + 1, cs =>
    match cs with
    | [] => none
    | c :: rest =>
      if c = quote then
        let run := c :: rest.takeWhile (· = quote)
        let rest := rest.dropWhile (· = quote)
        if run.length < 3 then
          (longString? quote most rest).map fun (text, rest) => (run ++ text, rest)
        else if run.length ≤ 5 then some (run.drop 3, rest)
        else none
      else if c = '\\' ∧ quote = '"' then
        match behindLineEscape? rest with
        | some rest => longString? quote most rest
        | none => do
          let (escaped, rest) ← Text.escape? rest
          let (text, rest) ← longString? quote most rest
          return (escaped :: text, rest)
      else
        match behindBreak? (c :: rest) with
        | some rest => (longString? quote most rest).map fun (text, rest) => ('\n' :: text, rest)
        | none =>
          if Text.isPlain c then
            (longString? quote most rest).map fun (text, rest) => (c :: text, rest)
          else none

/-- A string at the start of a text, and what is left behind it. -/
def string? : List Char → Option (List Char × List Char)
  | '"' :: '"' :: '"' :: rest => longString? '"' (rest.length + 1) (skipFirstBreak rest)
  | '\'' :: '\'' :: '\'' :: rest => longString? '\'' (rest.length + 1) (skipFirstBreak rest)
  | '"' :: rest => Text.quoted? rest
  | '\'' :: rest => literal? rest
  | _ => none

/-! ### Keys -/

/-- Whether a character can stand in a bare key. -/
def isKeyChar (c : Char) : Bool := c.isAlphanum || c = '_' || c = '-'

/-- One part of a key at the start of a text, and what is left behind it. -/
def keyPart? (cs : List Char) : Option (String × List Char) :=
  match cs with
  | '"' :: rest => (Text.quoted? rest).map fun (key, rest) => (String.ofList key, rest)
  | '\'' :: rest => (literal? rest).map fun (key, rest) => (String.ofList key, rest)
  | _ =>
    match cs.takeWhile isKeyChar with
    | [] => none
    | key => some (String.ofList key, cs.dropWhile isKeyChar)

/-- A key of at most `most` parts with points between them, and what is left behind it. -/
def keyUpTo? : (most : Nat) → List Char → Option (List String × List Char)
  | 0, _ => none
  | most + 1, cs => do
    let (part, rest) ← keyPart? (skipSpace cs)
    match skipSpace rest with
    | '.' :: rest =>
      let (parts, rest) ← keyUpTo? most rest
      return (part :: parts, rest)
    | rest => return ([part], rest)

/-- The number of parts that a key may have, and of arrays and inline tables that may stand inside
one another. -/
def deepest : Nat := 79

/-- A key and what is left behind it. -/
def key? (cs : List Char) : Option (List String × List Char) := keyUpTo? deepest cs

/-! ### Values -/

/-- Whether a character can stand in a number, a truth value or a date. -/
def isScalarChar (c : Char) : Bool :=
  c.isAlphanum || c = '_' || c = '-' || c = '+' || c = '.' || c = ':'

/-- The text of a plain value and what is left behind it. A time may follow a date behind a
space. -/
def scalarText (cs : List Char) : List Char × List Char :=
  let first := cs.takeWhile isScalarChar
  match cs.dropWhile isScalarChar with
  | ' ' :: c :: rest =>
    if isDate first && c.isDigit then
      (first ++ ' ' :: (c :: rest).takeWhile isScalarChar, (c :: rest).dropWhile isScalarChar)
    else (first, ' ' :: c :: rest)
  | rest => (first, rest)

mutual

/-- The value at the start of a text, and what is left behind it. At most `most` values are read,
and of arrays and inline tables at most `depth` inside one another. -/
def value? : (most depth : Nat) → List Char → Option (Value × List Char)
  | 0, _, _ => none
  | most + 1, depth, cs =>
    match cs, depth with
    | '[' :: rest, depth + 1 => (items? most depth rest).map fun rest => (.other, rest)
    | '\x7b' :: rest, depth + 1 => do
      match skipSpace rest with
      | '\x7d' :: rest => return (.table .inline [], rest)
      | _ =>
        let (entries, rest) ← inlineEntries? most depth [] rest
        return (.table .inline entries, rest)
    | '"' :: _, _ => (string? cs).map fun (text, rest) => (.text (String.ofList text), rest)
    | '\'' :: _, _ => (string? cs).map fun (text, rest) => (.text (String.ofList text), rest)
    | _, _ =>
      let (text, rest) := scalarText cs
      (scalar? text).map (·, rest)

/-- What is left behind the items of an array and its end. -/
def items? : (most depth : Nat) → List Char → Option (List Char)
  | 0, _, _ => none
  | most + 1, depth, cs =>
    match skipLines cs with
    | ']' :: rest => some rest
    | cs => do
      let (_, rest) ← value? most depth cs
      match skipLines rest with
      | ',' :: rest => items? most depth rest
      | ']' :: rest => some rest
      | _ => none

/-- The entries of an inline table behind those already read, and what is left behind its end. -/
def inlineEntries? : (most depth : Nat) → Entries → List Char → Option (Entries × List Char)
  | 0, _, _, _ => none
  | most + 1, depth, entries, cs => do
    match ← key? cs with
    | (key, '=' :: rest) =>
      let (value, rest) ← value? most depth (skipSpace rest)
      let entries ← entries.insert value key
      match skipSpace rest with
      | ',' :: rest => inlineEntries? most depth entries rest
      | '\x7d' :: rest => return (entries, rest)
      | _ => none
    | _ => none

end

/-! ### Documents -/

/-- A document so far: its table, and the path of the table opened last. -/
structure Document where
  entries : Entries := []
  path : List String := []

namespace Document

/-- Opens the table of a header. -/
def openHeader (document : Document) (path : List String) (repeated : Bool) : Option Document :=
  match path.getLast? with
  | none => none
  | some name =>
    let change : Entries → Option Entries :=
      if repeated then Entries.openRepeated name else Entries.openTable name
    (document.entries.within change path.dropLast).map fun entries => { entries, path }

/-- Reads a header or a key with its value, and leaves the rest of the line. -/
def readEntry (document : Document) (cs : List Char) : Option (Document × List Char) :=
  match cs with
  | '[' :: '[' :: rest => do
    match ← key? rest with
    | (path, ']' :: ']' :: rest) => (document.openHeader path true).map (·, rest)
    | _ => none
  | '[' :: rest => do
    match ← key? rest with
    | (path, ']' :: rest) => (document.openHeader path false).map (·, rest)
    | _ => none
  | _ => do
    match ← key? cs with
    | (key, '=' :: rest) =>
      let (value, rest) ← value? (rest.length + 1) deepest (skipSpace rest)
      let entries ← document.entries.within (Entries.insert value key) document.path
      return ({ document with entries }, rest)
    | _ => none

/-- Reads at most `most` lines with a header or a key. -/
def readUpTo (document : Document) : (most : Nat) → List Char → Option Document
  | 0, _ => none
  | most + 1, cs =>
    match skipLines cs with
    | [] => some document
    | cs => do
      let (document, rest) ← document.readEntry cs
      match skipLineEnd rest with
      | [] => return document
      | rest => do
        let rest ← behindBreak? rest
        document.readUpTo most rest

end Document

/-- The entries of a document. A byte order mark may stand before it. -/
def read? (text : String) : Option Entries :=
  let cs := match text.toList with
    | '\ufeff' :: rest => rest
    | cs => cs
  (({} : Document).readUpTo (cs.length + 1) cs).map (·.entries)

end Agenda.Toml
