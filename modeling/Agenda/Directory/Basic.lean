import Agenda.Directory.Address
import Agenda.Store.Basic

/-!
# The working directory

What stands in the directory that the program runs in: the configuration file, folders and
databases. Making a folder goes through the folders that are there; the path of a database is read
by its names alone, so that `..` takes back the name before it. What lies outside the working
directory is taken to be a place where folders exist and files can be made.
-/

namespace Agenda

/-- What stands under a name. -/
inductive Entry where
  /-- A text, as the configuration file is. -/
  | text (content : String)
  | database (store : Store)
  | folder
deriving DecidableEq

/-- A working directory. -/
structure Directory where
  /-- What stands inside, under the names on the way to it. -/
  entries : List (List String × Entry) := []
  /-- The databases outside, under their paths. -/
  outside : List (List Char × Store) := []
deriving DecidableEq

/-- Where an opened database is kept. -/
inductive Place where
  | memory
  | inside (names : List String)
  | outside (path : List Char)
deriving DecidableEq, Repr

namespace Directory

/-- What stands under the given names. -/
def lookup? (directory : Directory) (names : List String) : Option Entry :=
  directory.entries.lookup names

/-- The directory with an entry in the place of what stood under its names. -/
def put (directory : Directory) (names : List String) (entry : Entry) : Directory :=
  { directory with
    entries := (names, entry) :: directory.entries.filter fun other => other.1 ≠ names }

/-- The database outside at a path. -/
def outside? (directory : Directory) (path : List Char) : Option Store :=
  directory.outside.lookup path

/-- The directory with a store at a place. What is kept in memory is lost. -/
def keep (directory : Directory) (place : Place) (store : Store) : Directory :=
  match place with
  | .memory => directory
  | .inside names => directory.put names (.database store)
  | .outside path =>
    { directory with
      outside := (path, store) :: directory.outside.filter fun other => other.1 ≠ path }

/-- The names of a path, without those that lead nowhere. -/
def pathNames (path : List Char) : List String :=
  ((path.splitOn '/').map String.ofList).filter fun name => name ≠ "" ∧ name ≠ "."

/-- The names that stand in the working directory itself, in order. -/
def names (directory : Directory) : List String :=
  (directory.entries.filterMap fun entry =>
    match entry.1 with
    | [name] => some name
    | _ => none).mergeSort fun a b => decide (a ≤ b)

/-! ### Folders -/

/-- Why a folder is not there, or cannot be made. -/
inductive FolderFault where
  /-- A folder on the way does not exist. -/
  | missing
  /-- What stands on the way is no folder. -/
  | notFolder
  /-- Something stands there. -/
  | taken
deriving DecidableEq, Repr

/-- The folder under a name of a folder, given by the names on the way to it, or none outside the
working directory. -/
def enter (directory : Directory) (folder : Option (List String)) (name : String) :
    Except FolderFault (Option (List String)) :=
  match folder with
  | none => .ok none
  | some names =>
    if name = ".." then .ok (if names = [] then none else some names.dropLast)
    else
      match directory.lookup? (names ++ [name]) with
      | none => .error .missing
      | some .folder => .ok (some (names ++ [name]))
      | some _ => .error .notFolder

/-- The folder that a path leads to. -/
def folderAt (directory : Directory) (path : List String) :
    Except FolderFault (Option (List String)) :=
  path.foldlM directory.enter (some [])

/-- Whether something stands at the end of a path, given by its last name and the names before it in
reverse. -/
def holds (directory : Directory) (last : String) (before : List String) : Bool :=
  match directory.folderAt before.reverse with
  | .error _ => false
  | .ok none => true
  | .ok (some names) => last = ".." || (directory.lookup? (names ++ [last])).isSome

/-- The directory with a new folder at the end of a path, given likewise. -/
def makeFolder (directory : Directory) (last : String) (before : List String) :
    Except FolderFault Directory := do
  match ← directory.folderAt before.reverse with
  | none => return directory
  | some names =>
    if last = ".." ∨ (directory.lookup? (names ++ [last])).isSome then throw .taken
    else return directory.put (names ++ [last]) .folder

/-- The fault of a folder that cannot be made. -/
def faultOf : FolderFault → DatabaseFault
  | .taken => .nameTaken
  | .missing | .notFolder => .notFolder

/-- Makes the last folder of a path, or finds it there. -/
def ensureFolder (directory : Directory) (last : String) (before : List String) :
    Except FolderFault Directory :=
  match directory.makeFolder last before with
  | .ok made => .ok made
  | .error fault =>
    match directory.folderAt (last :: before).reverse with
    | .ok _ => .ok directory
    | .error _ => .error fault

/-- Makes the folders of a path, given by its names in reverse, as far as they are missing. Gives
the directory as far as it came. -/
def makeFolders (directory : Directory) : List String → Directory × Option DatabaseFault
  | [] => (directory, none)
  | last :: before =>
    match directory.ensureFolder last before with
    | .ok made => (made, none)
    | .error .missing =>
      match directory.makeFolders before with
      | (made, some fault) => (made, some fault)
      | (made, none) =>
        match made.ensureFolder last before with
        | .ok made => (made, none)
        | .error fault => (made, some (faultOf fault))
    | .error fault => (directory, some (faultOf fault))

/-- Makes the folders that a path leads through, unless something stands there. Those of a path from
the root lie outside. -/
def makeFoldersOf (directory : Directory) (path : List Char) : Directory × Option DatabaseFault :=
  if path.head? = some '/' then (directory, none)
  else
    match (pathNames path).dropLast.reverse with
    | [] => (directory, none)
    | last :: before =>
      if directory.holds last before then (directory, none)
      else directory.makeFolders (last :: before)

/-! ### Databases -/

/-- The names that remain of a path when `..` takes back the name before it, in reverse behind those
that are given; none if the path leads out of the working directory. -/
def plainNames? : (reversed : List String) → List String → Option (List String)
  | reversed, [] => some reversed.reverse
  | [], ".." :: _ => none
  | _ :: reversed, ".." :: path => plainNames? reversed path
  | reversed, name :: path => plainNames? (name :: reversed) path

/-- Where the file of a path is kept. -/
def placeOf (path : List Char) : Place :=
  match if path.head? = some '/' then none else plainNames? [] (pathNames path) with
  | some names => .inside names
  | none => .outside path

/-- The store in the file under the given names, empty if the file is new. An empty text is as good
as a new file. -/
def storeIn (directory : Directory) (names : List String) (mayMake : Bool) :
    Except DatabaseFault Store :=
  match directory.folderAt names.dropLast, directory.lookup? names with
  | .error _, _ => .error .cannotOpen
  | .ok _, some (.database store) => .ok store
  | .ok _, some .folder => .error .cannotOpen
  | .ok _, some (.text content) => if content = "" then .ok .empty else .error .notDatabase
  | .ok _, none => if mayMake ∧ names ≠ [] then .ok .empty else .error .cannotOpen

/-- Whether a path names a folder by its form: it ends in `..`, or has no names. -/
def isFolderPath (path : List Char) : Bool :=
  match (pathNames path).getLast? with
  | none => true
  | some name => name = ".."

/-- The place and the store of an address. -/
def find (directory : Directory) : Address → Except DatabaseFault (Place × Store)
  | .memory => .ok (.memory, .empty)
  | .file path mayMake =>
    match placeOf path with
    | .memory => .ok (.memory, .empty)
    | .inside names => (directory.storeIn names mayMake).map (.inside names, ·)
    | .outside path =>
      if isFolderPath path then .error .cannotOpen
      else .ok (.outside path, (directory.outside? path).getD .empty)

/-- Opens the database that a text gives: makes the folders on the way, then finds its store.
Folders go by the text as it stands, the database by the address that it is. -/
def openDatabase (directory : Directory) (text : String) :
    Directory × Except DatabaseFault (Place × Store) :=
  match directory.makeFoldersOf text.toList with
  | (directory, some fault) => (directory, .error fault)
  | (directory, none) => (directory, (Address.ofText text).bind directory.find)

/-- What was put under some names stands there. -/
theorem lookup?_put (directory : Directory) (names : List String) (entry : Entry) :
    (directory.put names entry).lookup? names = some entry := by
  rw [lookup?, put, List.lookup_cons, beq_self_eq_true]

/-- A store that is kept in a file of the directory is found there again. -/
theorem lookup?_keep (directory : Directory) (names : List String) (store : Store) :
    (directory.keep (.inside names) store).lookup? names = some (.database store) :=
  lookup?_put directory names (.database store)

end Directory

end Agenda
