import Agenda.Json.Token

/-!
# JSON values

A JSON value, its compact and its indented text, and the reader. An object keeps its fields in
order and with repeats; what a repeated field means is for the reader of a record to say.
-/

namespace Agenda

/-- A JSON value. A string without a text is one whose escapes are no text. -/
inductive Json where
  | null
  | bool (value : Bool)
  | number (numeral : List Char)
  | string (text : Option String)
  | array (items : List Json)
  | object (fields : List (Option String × Json))

namespace Json

/-- The string of a text. -/
def ofText (text : String) : Json := .string (some text)

/-! ### Writing -/

/-- The text of a string or of the name of a field. -/
def stringChars (text : Option String) : List Char := (Token.string text).chars

mutual

/-- The text of a value without blanks. -/
def compact : Json → List Char
  | null => Token.null.chars
  | bool true => Token.true.chars
  | bool false => Token.false.chars
  | number numeral => numeral
  | string text => stringChars text
  | array [] => ['[', ']']
  | array (item :: items) => '[' :: compact item ++ compactItems items
  | object [] => ['\x7b', '\x7d']
  | object ((name, value) :: fields) =>
    '\x7b' :: stringChars name ++ ':' :: compact value ++ compactFields fields

/-- The items of an array after the first, and its end. -/
def compactItems : List Json → List Char
  | [] => [']']
  | item :: items => ',' :: compact item ++ compactItems items

/-- The fields of an object after the first, and its end. -/
def compactFields : List (Option String × Json) → List Char
  | [] => ['\x7d']
  | (name, value) :: fields =>
    ',' :: stringChars name ++ ':' :: compact value ++ compactFields fields

end

/-- A line break and the indentation of a nesting depth. -/
def newLine (depth : Nat) : List Char := '\n' :: List.replicate (2 * depth) ' '

mutual

/-- The text of a value with each item and field on a line of its own; `depth` is how deep the value
is nested. -/
def indented (depth : Nat) : Json → List Char
  | null => Token.null.chars
  | bool true => Token.true.chars
  | bool false => Token.false.chars
  | number numeral => numeral
  | string text => stringChars text
  | array [] => ['[', ']']
  | array (item :: items) =>
    '[' :: newLine (depth + 1) ++ indented (depth + 1) item ++ indentedItems depth items
  | object [] => ['\x7b', '\x7d']
  | object ((name, value) :: fields) =>
    '\x7b' :: newLine (depth + 1) ++ stringChars name ++ ':' :: ' ' :: indented (depth + 1) value ++
      indentedFields depth fields

/-- The items of an array after the first, and its end. -/
def indentedItems (depth : Nat) : List Json → List Char
  | [] => newLine depth ++ [']']
  | item :: items =>
    ',' :: newLine (depth + 1) ++ indented (depth + 1) item ++ indentedItems depth items

/-- The fields of an object after the first, and its end. -/
def indentedFields (depth : Nat) : List (Option String × Json) → List Char
  | [] => newLine depth ++ ['\x7d']
  | (name, value) :: fields =>
    ',' :: newLine (depth + 1) ++ stringChars name ++ ':' :: ' ' :: indented (depth + 1) value ++
      indentedFields depth fields

end

/-- The compact text of a value. -/
def compactText (json : Json) : String := String.ofList json.compact

/-- The indented text of a value. -/
def indentedText (json : Json) : String := String.ofList (json.indented 0)

/-! ### Reading -/

mutual

/-- The value at the start of a list of tokens, and the tokens after it. The first argument bounds
the nesting and the number of tokens read. -/
def valueOf? : (most : Nat) → List Token → Option (Json × List Token)
  | _ + 1, .null :: rest => some (.null, rest)
  | _ + 1, .true :: rest => some (.bool true, rest)
  | _ + 1, .false :: rest => some (.bool false, rest)
  | _ + 1, .number numeral :: rest => some (.number numeral, rest)
  | _ + 1, .string text :: rest => some (.string text, rest)
  | _ + 1, .openBracket :: .closeBracket :: rest => some (.array [], rest)
  | most + 1, .openBracket :: rest => do
    let (item, rest) ← valueOf? most rest
    let (items, rest) ← itemsOf? most rest
    return (.array (item :: items), rest)
  | _ + 1, .openBrace :: .closeBrace :: rest => some (.object [], rest)
  | most + 1, .openBrace :: .string name :: .colon :: rest => do
    let (value, rest) ← valueOf? most rest
    let (fields, rest) ← fieldsOf? most rest
    return (.object ((name, value) :: fields), rest)
  | _, _ => none

/-- The items of an array after the first, up to its end. -/
def itemsOf? : (most : Nat) → List Token → Option (List Json × List Token)
  | _ + 1, .closeBracket :: rest => some ([], rest)
  | most + 1, .comma :: rest => do
    let (item, rest) ← valueOf? most rest
    let (items, rest) ← itemsOf? most rest
    return (item :: items, rest)
  | _, _ => none

/-- The fields of an object after the first, up to its end. -/
def fieldsOf? : (most : Nat) → List Token → Option (List (Option String × Json) × List Token)
  | _ + 1, .closeBrace :: rest => some ([], rest)
  | most + 1, .comma :: .string name :: .colon :: rest => do
    let (value, rest) ← valueOf? most rest
    let (fields, rest) ← fieldsOf? most rest
    return ((name, value) :: fields, rest)
  | _, _ => none

end

/-- Reads a text that is one value and nothing else. -/
def ofChars? (cs : List Char) : Option Json := do
  let tokens ← tokens? cs
  match valueOf? tokens.length tokens with
  | some (json, []) => some json
  | _ => none

/-- Reads a text that is one value and nothing else. -/
def ofText? (text : String) : Option Json := ofChars? text.toList

/-! ### Records -/

/-- The text of a string value. -/
def text? : Json → Option String
  | string text => text
  | _ => none

/-- The field with a name, if it is given at most once: none for a repeated field, and an empty
answer for one that is not given. -/
def soleField? (fields : List (Option String × Json)) (name : String) : Option (Option Json) :=
  match fields.filter (·.1 = some name) with
  | [] => some none
  | [field] => some (some field.2)
  | _ => none

/-- The values of the named fields of a record: of an object by name, where other fields do not
matter, and of an array by position, where the last fields may be missing. -/
def fieldValues? (names : List String) : Json → Option (List (Option Json))
  | object fields =>
    if fields.all (·.1.isSome) then names.mapM (soleField? fields) else none
  | array items =>
    if items.length ≤ names.length then
      some (items.map some ++ List.replicate (names.length - items.length) none)
    else none
  | _ => none

/-- The text of a field that has to be given. -/
def requiredText? (value : Option Json) : Option String := value.bind text?

/-- The text of a field that is empty where it is not given. -/
def optionalText? : Option Json → Option String
  | none => some ""
  | some json => json.text?

end Json

end Agenda
