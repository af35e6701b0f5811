import Agenda.Config.Setting
import Agenda.Text.Blank
import Agenda.Text.Escape
import Agenda.Text.Numeral

/-!
# Settings from the environment

An environment variable sets a field under the field's name behind `CADENCE_`, in any case;
`TODO_DBFILE` sets the database path. Blanks around a name do not count. A value is typed by its
looks: a truth value, a number, a quoted string, a character, an array, a dictionary, and otherwise
a text. Where the looks do not hold to the end, the value is the text as it stands.
-/

namespace Agenda.Environment

/-! ### Values by their looks -/

/-- The blanks skipped around a value. -/
def isSpace (c : Char) : Bool := c = ' ' || c = '\t' || c = '\n' || c = '\r' || c = '\x0c'

/-- What is left after the blanks. -/
def skipSpace (cs : List Char) : List Char := cs.dropWhile isSpace

/-- Whether a character ends a bare value. -/
def isSeparator (c : Char) : Bool :=
  c = ',' || c = '[' || c = ']' || c = '\x7b' || c = '\x7d'

/-- What is left of a text behind a word it starts with. -/
def behind? (word : List Char) (cs : List Char) : Option (List Char) :=
  if word.isPrefixOf cs then some (cs.drop word.length) else none

/-- Whether a text is a number with a decimal point, perhaps with a sign and an exponent. -/
def isDecimalFraction (cs : List Char) : Bool :=
  let unsigned := match cs with
    | '+' :: rest => rest
    | '-' :: rest => rest
    | rest => rest
  let whole := unsigned.takeWhile Char.isDigit
  match unsigned.dropWhile Char.isDigit with
  | '.' :: rest =>
    let fraction := rest.takeWhile Char.isDigit
    let exponent := match rest.dropWhile Char.isDigit with
      | [] => true
      | e :: '+' :: digits => (e = 'e' || e = 'E') && (Text.readNat? digits).isSome
      | e :: '-' :: digits => (e = 'e' || e = 'E') && (Text.readNat? digits).isSome
      | e :: digits => (e = 'e' || e = 'E') && (Text.readNat? digits).isSome
    !(whole.isEmpty && fraction.isEmpty) && exponent
  | _ => false

/-- The setting of a bare value, without the blanks around it. -/
def bareSetting (cs : List Char) : Setting :=
  let value := Text.trim cs
  if isDecimalFraction value then .other
  else
    match Text.readNatBelow? Text.limit64 value, Text.readInt64? value with
    | some n, _ => .integer n
    | none, some n => .integer n
    | none, none => .text (String.ofList value)

/-- Whether a character can stand in a bare key of a dictionary. -/
def isKeyChar (c : Char) : Bool := c.isAlphanum || c = '_' || c = '-'

/-- What is left behind a key of a dictionary. -/
def behindKey? (cs : List Char) : Option (List Char) :=
  match cs with
  | '"' :: rest => (Text.quoted? rest).map (·.2)
  | _ => if (cs.takeWhile isKeyChar).isEmpty then none else some (cs.dropWhile isKeyChar)

mutual

/-- The value that a text starts with, and what is left behind it and the blanks after it. The first
argument bounds the nesting and the number of values. -/
def value? : (most : Nat) → List Char → Option (Setting × List Char)
  | 0, _ => none
  | most + 1, cs =>
    let start := skipSpace cs
    let found : Option (Setting × List Char) :=
      match behind? ['t', 'r', 'u', 'e'] start, behind? ['f', 'a', 'l', 's', 'e'] start with
      | some rest, _ => some (.other, rest)
      | none, some rest => some (.other, rest)
      | none, none =>
        match start with
        | '\x7b' :: rest => (entries? most rest).map fun rest => (.other, rest)
        | '[' :: rest => (items? most rest).map fun rest => (.other, rest)
        | '"' :: rest =>
          (Text.quoted? rest).map fun (text, rest) => (.text (String.ofList text), rest)
        | '\'' :: c :: '\'' :: rest => some (.text (String.singleton c), rest)
        | '\'' :: _ => none
        | _ =>
          some (bareSetting (start.takeWhile (!isSeparator ·)),
            start.dropWhile (!isSeparator ·))
    found.map fun (setting, rest) => (setting, skipSpace rest)

/-- What is left behind the items of an array and its end. -/
def items? : (most : Nat) → List Char → Option (List Char)
  | _ + 1, ']' :: rest => some rest
  | most + 1, cs =>
    match value? most cs with
    | some (_, ',' :: rest) => items? most rest
    | some (_, ']' :: rest) => some rest
    | _ => none
  | 0, _ => none

/-- What is left behind the entries of a dictionary and its end. -/
def entries? : (most : Nat) → List Char → Option (List Char)
  | _ + 1, '\x7d' :: rest => some rest
  | most + 1, cs =>
    match (behindKey? (skipSpace cs)).map skipSpace with
    | some ('=' :: rest) =>
      match value? most rest with
      | some (_, ',' :: rest) => entries? most rest
      | some (_, '\x7d' :: rest) => some rest
      | _ => none
    | _ => none
  | 0, _ => none

end

/-- The setting of an environment value. -/
def settingOf (value : String) : Setting :=
  let cs := value.toList
  match value? (cs.length + 1) cs with
  | some (setting, []) => setting
  | _ => .text value

/-! ### Layers -/

/-- A name in small letters, without the blanks around it. -/
def folded (name : String) : List Char := (Text.trim name.toList).map Char.toLower

/-- The field that a variable names behind `CADENCE_`. A name with points sets something inside the
field of its first part, so that the field is no plain value. -/
def prefixedSetting? (name value : String) : Option (String × Setting) :=
  match behind? "cadence_".toList (folded name) with
  | none => none
  | some key =>
    match (Text.trim key).splitOn '.' with
    | [field] => if field.isEmpty then none else some (String.ofList field, settingOf value)
    | field :: parts =>
      if (field :: parts).any List.isEmpty then none else some (String.ofList field, .other)
    | [] => none

/-- The settings of the variables that are named for their fields. -/
def prefixedLayer (environment : List (String × String)) : Layer :=
  environment.foldl (fun layer (name, value) =>
    match prefixedSetting? name value with
    | some (field, setting) => layer.set field setting
    | none => layer) {}

/-- The setting of the variable for the database alone. -/
def databaseLayer (environment : List (String × String)) : Layer :=
  environment.foldl (fun layer (name, value) =>
    if folded name = "todo_dbfile".toList then layer.set "database_path" (settingOf value)
    else layer) {}

end Agenda.Environment
