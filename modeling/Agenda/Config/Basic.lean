import Agenda.Config.Environment
import Agenda.Store.Query
import Agenda.Timezone
import Agenda.Toml.Reader

/-!
# The configuration

Settings come from the defaults, the file `cadence.toml`, the variable for the database and the
variables of the fields, each above the one before. The default of the time zone depends on what the
machine tells of its own.
-/

namespace Agenda

/-- What the machine tells the program, apart from the working directory. -/
structure Machine where
  /-- The variables that are set. -/
  environment : List (String × String)
  /-- The text of the file that names the time zone of the machine. -/
  zoneFile : Option String := none
  /-- The name under which the machine itself knows its time zone. -/
  localZone : Option String := none

namespace Config

/-- The name of the configuration file. -/
def fileName : String := "cadence.toml"

/-- The time zone where none is set and none can be found. -/
def fallbackTimezone : String := "UTC"

/-- What may name the time zone of the machine, first to last: the variable `TZ`, the zone file
without the blanks around its text, and the machine itself. -/
def zoneCandidates (machine : Machine) : List String :=
  [machine.environment.lookup "TZ",
    machine.zoneFile.map fun text => String.ofList (Text.trim text.toList),
    machine.localZone].filterMap id

/-- The time zone of the machine: the first candidate that is the name of one. -/
def machineTimezone (machine : Machine) : String :=
  ((zoneCandidates machine).find? Timezone.isName).getD fallbackTimezone

/-- The configuration without any settings. -/
def defaults (machine : Machine) : Config where
  databasePath := "scheduler.db"
  timezone := machineTimezone machine
  searchLimit := defaultLimit

/-- The setting that a value of the configuration file gives. -/
def settingOfValue : Toml.Value → Setting
  | .text value => .text value
  | .integer value => .integer value
  | _ => .other

/-- The settings of the entries of a configuration file. -/
def layerOfEntries (entries : Toml.Entries) : Layer where
  databasePath := (entries.lookup "database_path").map settingOfValue
  timezone := (entries.lookup "timezone").map settingOfValue
  searchLimit := (entries.lookup "search_limit").map settingOfValue

/-- The settings of the configuration file, none if there is no file. A file that cannot be read is
an error. -/
def fileLayer? : (file : Option String) → Option Layer
  | none => some {}
  | some text => (Toml.read? text).map layerOfEntries

/-- All settings, the higher layers over the lower ones. -/
def layer? (file : Option String) (environment : List (String × String)) : Option Layer :=
  (fileLayer? file).map fun fileLayer =>
    (Environment.prefixedLayer environment).above
      ((Environment.databaseLayer environment).above fileLayer)

/-- The configuration, if the file can be read and the setting that holds for each field is of the
right type. -/
def load? (file : Option String) (machine : Machine) : Option Config :=
  (layer? file machine.environment).bind fun layer => ofLayer? layer (defaults machine)

/-- The configuration that the program uses: one that cannot be read is replaced by the defaults as
a whole. -/
def loadOrDefaults (file : Option String) (machine : Machine) : Config :=
  (load? file machine).getD (defaults machine)

end Config

end Agenda
