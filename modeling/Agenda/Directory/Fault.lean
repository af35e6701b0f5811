/-!
# Faults of the database

Why the database of a configuration cannot be opened.
-/

namespace Agenda

/-- Why a database cannot be opened. -/
inductive DatabaseFault where
  /-- A folder of its path would have to stand in a file. -/
  | notFolder
  /-- A folder of its path would have to replace a file. -/
  | nameTaken
  /-- There is no such file and none can be made, or a folder stands in its place. -/
  | cannotOpen
  /-- Its address names a host. -/
  | badHost (host : String)
  /-- Its address asks for an unknown way of access or sharing. -/
  | badMode (kind value : String)
  /-- The file holds something else. -/
  | notDatabase
deriving DecidableEq, Repr

namespace DatabaseFault

/-- What the database reports under a code of its own. -/
def coded (code : Nat) (text : String) : String := s!"(code: {code}) {text}"

/-- A report of the database with its cause. -/
def returned (code : Nat) (text : String) : String :=
  "error returned from database: " ++ coded code text ++ ": " ++ coded code text

/-- A fault in words. -/
def message : DatabaseFault → String
  | notFolder => "IO error: Not a directory (os error 20)"
  | nameTaken => "IO error: File exists (os error 17)"
  | cannotOpen => "Database error: " ++ returned 14 "unable to open database file"
  | badHost host => "Database error: " ++ returned 1 ("invalid uri authority: " ++ host)
  | badMode kind value => "Database error: " ++ returned 1 (s!"no such {kind} mode: {value}")
  | notDatabase =>
    "Migration error: while executing migrations: error returned from database: " ++
      coded 26 "file is not a database" ++ ": " ++ returned 26 "file is not a database"

end DatabaseFault

end Agenda
