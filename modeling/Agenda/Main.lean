import Agenda.Program
import Agenda.Store.Saved
import Std.Time

/-!
# The command line program

Reads the surroundings, runs the program once and keeps what it leaves behind.
-/

namespace Agenda.Program

/-- The environment variables that the configuration can draw on, those that are set. The names are
looked up in capitals. -/
def readEnvironment : IO (List (String × String)) := do
  let names := ["TZ", "TODO_DBFILE", "CADENCE_DATABASE_PATH", "CADENCE_TIMEZONE",
    "CADENCE_SEARCH_LIMIT"]
  let found ← names.mapM fun name => do return (← IO.getEnv name).map (name, ·)
  return found.filterMap id

/-- The text of a file, if there is such a file. -/
def readFile? (path : String) : IO (Option String) := do
  try return some (← IO.FS.readFile path)
  catch _ => return none

/-- The name of the time zone that the link to the local zone leads to, if there is such a link. -/
def readLocalZone? : IO (Option String) := do
  try
    let target := (← IO.FS.realPath "/etc/localtime").toString
    match target.splitOn "zoneinfo/" with
    | [_, name] => return some name
    | _ => return none
  catch _ => return none

/-- What the machine tells. -/
def readMachine : IO Machine := do
  return { environment := ← readEnvironment, zoneFile := ← readFile? "/etc/timezone",
           localZone := ← readLocalZone? }

/-- Today in a time zone, as the clock has it; the zone's rules come from the system. -/
def clockDay? (timezone : String) : IO (Option Calendar.Date) := do
  let rules ← Std.Time.Database.defaultGetZoneRules timezone
  let now := Std.Time.DateTime.ofTimestamp (← Std.Time.Timestamp.now) rules
  let day := now.date.get.date
  return Calendar.Date.ofCivil? day.year day.month.val.toNat day.day.val.toNat

/-- The store in a file, none if there is no such file. -/
def readStore? (path : String) : IO (Option Store) := do
  match ← readFile? path with
  | none => return none
  | some text =>
    match Store.ofSavedText? text with
    | some store => return some store
    | none => throw (IO.userError "the database cannot be read")

/-- Saves a store in a file, and makes the folders of its path. -/
def save (path : String) (store : Store) : IO Unit := do
  let folder := String.ofList ((path.toList.reverse.dropWhile (· ≠ '/')).drop 1).reverse
  if folder ≠ "" then IO.FS.createDirAll folder
  IO.FS.writeFile path store.savedText

/-- The place and path of the database that the configuration gives, if it is kept in a file. -/
def databaseFile? (config : Config) : Option (Place × String) :=
  match Address.ofText config.databasePath with
  | .ok (.file path _) => some (Directory.placeOf path, String.ofList path)
  | _ => none

/-- The store that a working directory holds at a place. -/
def storeAt? (directory : Directory) : Place → Option Store
  | .memory => none
  | .outside path => directory.outside? path
  | .inside names =>
    match directory.lookup? names with
    | some (.database store) => some store
    | _ => none

/-- A working directory with the folders that lead to a place. -/
def withFolders (directory : Directory) : Place → Directory
  | .inside names =>
    (List.range names.length).foldl (fun directory count =>
      if count = 0 then directory else directory.put (names.take count) .folder) directory
  | _ => directory

/-- One run of the program on its surroundings; gives the exit code. Folders on the way to the
database are made with it. -/
def runHere (arguments : List String) : IO UInt32 := do
  let machine ← readMachine
  let directory := freshDirectory (← readFile? Config.fileName)
  let config := configIn machine directory
  let zone := if Timezone.isName config.timezone then config.timezone else Config.fallbackTimezone
  let some clock ← clockDay? zone | throw (IO.userError "the clock is outside the calendar")
  match databaseFile? config with
  | none =>
    let (outcome, _) := runIn machine clock directory arguments
    IO.print outcome.output
    IO.eprint outcome.errorOutput
    return outcome.exitCode.toUInt32
  | some (place, path) =>
    let before ← readStore? path
    let directory := withFolders directory place
    let directory := (before.map (directory.keep place)).getD directory
    let (outcome, after) := runIn machine clock directory arguments
    if let some store := storeAt? after place then
      if before ≠ some store then save path store
    IO.print outcome.output
    IO.eprint outcome.errorOutput
    return outcome.exitCode.toUInt32

end Agenda.Program

/-- Runs the program. -/
def main (arguments : List String) : IO UInt32 := Agenda.Program.runHere arguments
