import Agenda.Directory.Fault
import Agenda.Text.Hex

/-!
# Addresses of databases

A database is given by the path of its file, or by an address behind `file:` with a host, a path,
options and a remark: `file://localhost/path?mode=rw&cache=private#remark`. An empty path and the
path `:memory:` are no files: such a database lives in memory and ends with the run.
-/

namespace Agenda

/-- Where a database is kept. -/
inductive Address where
  /-- Nowhere: it starts empty and ends with the run. -/
  | memory
  /-- In a file, which may be made if it is missing. -/
  | file (path : List Char) (mayMake : Bool)
deriving DecidableEq, Repr

namespace Address

/-- A part of an address with its escapes read: a `%` and two hexadecimal digits stand for a
character, and an escaped null character ends the part. At most `most` characters are read. -/
def decodeUpTo : (most : Nat) → List Char → List Char
  | 0, _ => []
  | _ + 1, [] => []
  | most + 1, c :: cs =>
    match c, cs with
    | '%', high :: low :: rest =>
      match Text.hexNumber? [high, low] with
      | some 0 => []
      | some code => Char.ofNat code :: decodeUpTo most rest
      | none => c :: decodeUpTo most cs
    | _, _ => c :: decodeUpTo most cs

/-- A part of an address with its escapes read. -/
def decode (cs : List Char) : List Char := decodeUpTo cs.length cs

/-- An option of an address as its name and its value. -/
def optionOf (cs : List Char) : String × String :=
  (String.ofList (decode (cs.takeWhile (· ≠ '='))),
    String.ofList (decode ((cs.dropWhile (· ≠ '=')).drop 1)))

/-- The options behind the question mark of an address. -/
def optionsOf (cs : List Char) : List (String × String) :=
  ((cs.splitOn '&').map optionOf).filter fun option => option.1 ≠ ""

/-- What is left of an address behind its host. Only the local host may be named. -/
def behindHost : List Char → Except DatabaseFault (List Char)
  | '/' :: '/' :: rest =>
    let host := String.ofList (rest.takeWhile (· ≠ '/'))
    if host = "" ∨ host = "localhost" then .ok (rest.dropWhile (· ≠ '/'))
    else .error (.badHost host)
  | cs => .ok cs

/-- The address with an option obeyed. Options of other names are passed over. -/
def obey (address : Address) (option : String × String) : Except DatabaseFault Address :=
  match option.1, option.2, address with
  | "mode", "memory", _ => .ok memory
  | "mode", "rwc", file path _ => .ok (file path true)
  | "mode", "rw", file path _ => .ok (file path false)
  | "mode", "ro", file path _ => .ok (file path false)
  | "mode", value, _ =>
    if value ∈ ["rwc", "rw", "ro"] then .ok address else .error (.badMode "access" value)
  | "cache", value, _ =>
    if value ∈ ["shared", "private"] then .ok address else .error (.badMode "cache" value)
  | _, _, _ => .ok address

/-- A path that stands for memory, or for a file. -/
def ofPath (path : List Char) : Address :=
  if path = [] ∨ path = ":memory:".toList then memory else file path true

/-- The address behind `file:`. -/
def ofUri (cs : List Char) : Except DatabaseFault Address := do
  let rest ← behindHost cs
  let rest := rest.takeWhile (· ≠ '#')
  let path := decode (rest.takeWhile (· ≠ '?'))
  let options := optionsOf ((rest.dropWhile (· ≠ '?')).drop 1)
  options.foldlM obey (ofPath path)

/-- The address that a text gives. -/
def ofText (text : String) : Except DatabaseFault Address :=
  match text.toList with
  | 'f' :: 'i' :: 'l' :: 'e' :: ':' :: rest => ofUri rest
  | path => .ok (ofPath path)

end Address

end Agenda
