import Agenda.Json.Records
import Agenda.Store.Basic

/-!
# The saved form of a store

A store is saved as a JSON object: the count of ids it has handed out, and its rows.
-/

namespace Agenda.Store

/-- The object of a store. -/
def toJson (store : Store) : Json :=
  .object [
    (some "issued", .number (Text.digits store.issued)),
    (some "tasks", .array (store.rows.map Task.toJson))]

/-- Reads a store. -/
def ofJson? (json : Json) : Option Store := do
  match ← json.fieldValues? ["issued", "tasks"] with
  | [some (.number numeral), some (.array items)] =>
    return { rows := ← items.mapM Task.ofJson?, issued := ← Text.readNat? numeral }
  | _ => none

/-- The text under which a store is saved. -/
def savedText (store : Store) : String := store.toJson.indentedText ++ "\n"

/-- Reads the text of a saved store. -/
def ofSavedText? (text : String) : Option Store := (Json.ofText? text).bind ofJson?

end Agenda.Store
