/-!
# Tables of a TOML document

A document is a table of named values, and tables may hold tables. How a table came about decides
what may be added to it: a table under a header of its own and an inline table are complete, one
made by a dotted key takes further dotted keys, and one that only stands on the way to another takes
a header later.
-/

namespace Agenda.Toml

/-- How a table came about. -/
inductive Origin where
  /-- It has a header of its own. -/
  | header
  /-- It stands on the way to a table with a header. -/
  | path
  /-- It was made by a dotted key. -/
  | dotted
  /-- It was written between braces. -/
  | inline
deriving DecidableEq, Repr

/-- A value. Only texts and whole numbers are told from the other plain values. -/
inductive Value where
  | text (value : String)
  | integer (value : Int)
  /-- A number with a fraction, a truth value, a date or an array. -/
  | other
  | table (origin : Origin) (entries : List (String × Value))
  /-- The tables under repeated headers in double brackets, the last one first. -/
  | tables (list : List (List (String × Value)))

/-- Named values. -/
abbrev Entries := List (String × Value)

namespace Entries

/-- The entries with another value, or a new one, under a name. -/
def put (entries : Entries) (name : String) (value : Value) : Entries :=
  if (entries.lookup name).isSome then
    entries.map fun entry => if entry.1 = name then (name, value) else entry
  else entries ++ [(name, value)]

/-- Changes the table at a path, going into the last of repeated tables. Tables missing on the way
are made. -/
def within (change : Entries → Option Entries) : (path : List String) → Entries → Option Entries
  | [], entries => change entries
  | name :: path, entries =>
    match entries.lookup name with
    | none => (within change path []).map fun inner => entries.put name (.table .path inner)
    | some (.table .inline _) => none
    | some (.table origin inner) =>
      (within change path inner).map fun inner => entries.put name (.table origin inner)
    | some (.tables (last :: before)) =>
      (within change path last).map fun last => entries.put name (.tables (last :: before))
    | some _ => none

/-- Adds a value under a dotted key. The tables on the way may have come about in any way but by a
header of their own or between braces; the one that takes the value is new or was made by a dotted
key. -/
def insert (value : Value) : (key : List String) → Entries → Option Entries
  | [], _ => none
  | [name], entries => if (entries.lookup name).isSome then none else some (entries.put name value)
  | name :: next :: key, entries =>
    match entries.lookup name, key with
    | none, _ =>
      (insert value (next :: key) []).map fun inner => entries.put name (.table .dotted inner)
    | some (.table .dotted inner), _ =>
      (insert value (next :: key) inner).map fun inner => entries.put name (.table .dotted inner)
    | some (.table .path inner), _ :: _ =>
      (insert value (next :: key) inner).map fun inner => entries.put name (.table .path inner)
    | some (.tables (last :: before)), _ :: _ =>
      (insert value (next :: key) last).map fun last => entries.put name (.tables (last :: before))
    | some _, _ => none

/-- Starts the table under a header, which may have been on the way to others before. -/
def openTable (name : String) (entries : Entries) : Option Entries :=
  match entries.lookup name with
  | none => some (entries.put name (.table .header []))
  | some (.table .path inner) => some (entries.put name (.table .header inner))
  | some _ => none

/-- Starts one more table under a header in double brackets. -/
def openRepeated (name : String) (entries : Entries) : Option Entries :=
  match entries.lookup name with
  | none => some (entries.put name (.tables [[]]))
  | some (.tables list) => some (entries.put name (.tables ([] :: list)))
  | some _ => none

end Entries

end Agenda.Toml
