import CaptureFlow.Command.Program
import CaptureFlow.Preference.Archive
/-! # A file system

A small model of the file system that the program works in: a tree of directories and files below
the working directory.  Of everything above it only that it exists is known.  A file holds bytes or
is a preference database.

Paths are walked one component after the other, and every component but the last has to be a
directory.  A database path names a file that may be missing: opening it creates it.  An empty file
becomes a database when it is opened; any other file is left alone. -/

namespace CaptureFlow

/-! ### Trees -/

inductive FileContent where
  | bytes (content : Bytes)
  | database (table : Table Bytes)

inductive FileNode where
  | file (content : FileContent)
  | directory (entries : List (String × FileNode))

/-- What is in a directory, in the order of the names. -/
abbrev Directory := List (String × FileNode)

/-- The file system, seen from the working directory. -/
structure FileSystem where
  entries : Directory := []

namespace FileSystem

/-- What is found below a directory along a list of names. -/
def find? : Directory → List String → Option FileNode
  | entries, [] => some (.directory entries)
  | entries, name :: rest =>
    match (entries.find? fun entry => entry.1 = name).map (·.2), rest with
    | none, _ => none
    | some node, [] => some node
    | some (.directory inner), rest => find? inner rest
    | some (.file _), _ => none

/-- The directory with a node put at the end of a list of names, inside directories that are
there. -/
def put (node : FileNode) : List String → Directory → Directory
  | [], entries => entries
  | [name], entries => Table.insertRow name node entries
  | name :: rest, entries =>
    match entries.find? fun entry => entry.1 = name with
    | some (_, .directory inner) => Table.insertRow name (.directory (put node rest inner)) entries
    | _ => entries

def names (fs : FileSystem) : List String := fs.entries.map (·.1)

/-! ### Paths -/

/-- Where a path leads: below the working directory, with the last name first, or above it. -/
inductive Place where
  | inside (names : List String)
  | outside
deriving DecidableEq, Repr

/-- The longest path, in bytes, with the byte that ends it. -/
def maxPathLength : Nat := 4096

/-- The longest name, in bytes. -/
def maxNameLength : Nat := 255

def isDirectory (fs : FileSystem) : Place → Bool
  | .outside => true
  | .inside names =>
    match find? fs.entries names.reverse with
    | some (.directory _) => true
    | _ => false

/-- The place of a name in a directory; nothing need be there. -/
def enter (fs : FileSystem) (place : Place) (name : String) : Except PathFault Place :=
  if !fs.isDirectory place then .error .notDirectory
  else if name = "" ∨ name = "." then .ok place
  else if name = ".." then
    match place with
    | .inside (_ :: above) => .ok (.inside above)
    | _ => .ok .outside
  else if maxNameLength < name.utf8ByteSize then .error .nameTooLong
  else
    match place with
    | .inside names => .ok (.inside (name :: names))
    | .outside => .error .notFound

/-- A place where something has to be. -/
def present (fs : FileSystem) : Place → Except PathFault Place
  | .outside => .ok .outside
  | .inside names =>
    match find? fs.entries names.reverse with
    | some _ => .ok (.inside names)
    | none => .error .notFound

/-- Walks to the end of a list of names, where something has to be. -/
def walk (fs : FileSystem) : Place → List String → Except PathFault Place
  | place, [] => .ok place
  | place, name :: rest => do fs.walk (← fs.present (← fs.enter place name)) rest

/-- The components of a path, and the place they start from. -/
def components (path : String) : Except PathFault (Place × List String) :=
  if path.toList.contains '\x00' then .error .containsNul
  else if maxPathLength ≤ path.utf8ByteSize then .error .nameTooLong
  else
    let start := if path.startsWith "/" then Place.outside else .inside []
    .ok (start, (path.toList.splitOn '/').map String.ofList)

/-! ### Files -/

def readFile (fs : FileSystem) (path : String) : Except PathFault Bytes := do
  let (start, names) ← components path
  match ← fs.walk start names with
  | .outside => .error .isDirectory
  | .inside names =>
    match find? fs.entries names.reverse with
    | some (.file (.bytes content)) => .ok content
    | some (.file (.database table)) => .ok (archive table)
    | some (.directory _) => .error .isDirectory
    | none => .error .notFound

/-! ### Databases -/

/-- The names that lead to a database, with the last name first.  The path must not end like that
of a directory. -/
def databasePlace (fs : FileSystem) (path : String) : Except PathFault (List String) := do
  let (start, names) ← components path
  match names.reverse.dropWhile (· == "") with
  | [] => .error .isDirectory
  | last :: above =>
    let place ← fs.walk start above.reverse
    if !fs.isDirectory place then .error .notDirectory
    else if last = "." ∨ last = ".." ∨ path.endsWith "/" then .error .isDirectory
    else
      match ← fs.enter place last with
      | .inside names => .ok names
      | .outside => .error .isDirectory

/-- The rows of the database at a path; a file that is missing or empty is a new database. -/
def openDatabase (fs : FileSystem) (path : String) : Except DatabaseFault (Table Bytes) :=
  match fs.databasePlace path with
  | .error fault => .error (.path fault)
  | .ok names =>
    match find? fs.entries names.reverse with
    | none => .ok .empty
    | some (.file (.bytes [])) => .ok .empty
    | some (.file (.bytes _)) => .error .badMagic
    | some (.file (.database table)) => .ok table
    | some (.directory _) => .error (.path .isDirectory)

/-- The file system with the given rows in the database at a path. -/
def saveDatabase (fs : FileSystem) (path : String) (table : Table Bytes) : FileSystem :=
  match fs.databasePlace path with
  | .error _ => fs
  | .ok names => ⟨put (.file (.database table)) names.reverse fs.entries⟩

/-! ### Commands -/

/-- What an invocation finds. -/
def surroundings (fs : FileSystem) (invocation : Command.Invocation) : Command.Surroundings where
  script :=
    match invocation.request with
    | .simulate script _ => fs.readFile script
    | _ => .error .notFound
  database := fs.openDatabase invocation.database

/-- Carries out an invocation: its answer, and the file system after it. -/
def execute (fs : FileSystem) (invocation : Command.Invocation) :
    Except Failure Command.Answer × FileSystem :=
  let done := invocation.execute (fs.surroundings invocation)
  match done.database with
  | none => (done.answer, fs)
  | some table => (done.answer, fs.saveDatabase invocation.database table)

def run (fs : FileSystem) (arguments : List String) : Command.Exit × FileSystem :=
  match Command.Invocation.ofArguments arguments with
  | .error fault => (fault.exit, fs)
  | .ok invocation =>
    let (answer, after) := fs.execute invocation
    (invocation.exit answer, after)

end FileSystem

end CaptureFlow
