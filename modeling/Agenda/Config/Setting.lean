import Agenda.Text.Numeral

/-!
# Settings

The configuration has three fields. Each source of settings is a layer that may set some of them, to
a value of any type; a field takes its value from the highest layer that sets it, and only this
value has to be of the right type.
-/

namespace Agenda

/-- The configuration of the program. -/
structure Config where
  databasePath : String
  timezone : String
  searchLimit : Nat
deriving DecidableEq, Repr

/-- A value that a layer sets. -/
inductive Setting where
  | text (value : String)
  | integer (value : Int)
  /-- A value of a type that no field has. -/
  | other
deriving DecidableEq, Repr

/-- The settings of one source. -/
structure Layer where
  databasePath : Option Setting := none
  timezone : Option Setting := none
  searchLimit : Option Setting := none
deriving DecidableEq, Repr

namespace Layer

/-- The settings of a layer, and below them those of another. -/
def above (upper lower : Layer) : Layer where
  databasePath := upper.databasePath.or lower.databasePath
  timezone := upper.timezone.or lower.timezone
  searchLimit := upper.searchLimit.or lower.searchLimit

/-- The layer with one more setting; a name that is no field's is ignored. -/
def set (layer : Layer) (name : String) (setting : Setting) : Layer :=
  if name = "database_path" then { layer with databasePath := some setting }
  else if name = "timezone" then { layer with timezone := some setting }
  else if name = "search_limit" then { layer with searchLimit := some setting }
  else layer

end Layer

/-- The text that a setting is. -/
def Setting.text? : Setting → Option String
  | text value => some value
  | _ => none

/-- The limit that a setting is, a number of 32 bits without a sign. -/
def Setting.limit? : Setting → Option Nat
  | integer value => if 0 ≤ value ∧ value < Text.limit32 then some value.toNat else none
  | _ => none

/-- The configuration in which the settings of a layer replace defaults. -/
def Config.ofLayer? (layer : Layer) (defaults : Config) : Option Config := do
  let databasePath ← (layer.databasePath.map Setting.text?).getD (some defaults.databasePath)
  let timezone ← (layer.timezone.map Setting.text?).getD (some defaults.timezone)
  let searchLimit ← (layer.searchLimit.map Setting.limit?).getD (some defaults.searchLimit)
  return { databasePath, timezone, searchLimit }

end Agenda
