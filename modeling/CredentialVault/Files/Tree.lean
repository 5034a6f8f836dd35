import CredentialVault.Bytes
import CredentialVault.Files.Database

/-!
# Files

A tree of files maps locations to nodes: directories, plain files and databases. Paths are texts,
taken from the root; `Files.locate` follows one through the directories, of which each name on the
way must be one, and also the last name if a slash or a dot comes after it. A change (`FilesM`)
fails as on an operating system, with a `FileError` that says why; what it did before it failed
stays. A tree may also refuse changes that are to come, as a full or failing disk does. To write a
file are two changes: it is opened, which empties it, and then filled, which may come to an end
after some of the bytes.
-/

namespace CredentialVault

/-- Why a file cannot be used. -/
inductive FileError where
  /-- There is no such file or directory. -/
  | notFound
  /-- A component of the path is a file. -/
  | notDirectory
  /-- The path leads to a directory. -/
  | isDirectory
  /-- The path is taken. -/
  | alreadyExists
  /-- The path names a directory by its place alone. -/
  | busy
  /-- The path or a component of it is too long. -/
  | nameTooLong
  /-- The path holds a character that no path can hold. -/
  | invalidName
  /-- The file is not UTF-8. -/
  | notUtf8
  /-- The permissions of the file forbid it. -/
  | permissionDenied
  /-- The disk is full. -/
  | storageFull
  /-- The disk fails. -/
  | diskFailure
deriving DecidableEq, Repr

/-- The wording of a file error. -/
def FileError.message : FileError → String
  | .notFound => "No such file or directory (os error 2)"
  | .notDirectory => "Not a directory (os error 20)"
  | .isDirectory => "Is a directory (os error 21)"
  | .alreadyExists => "File exists (os error 17)"
  | .busy => "Device or resource busy (os error 16)"
  | .nameTooLong => "File name too long (os error 36)"
  | .invalidName => "file name contained an unexpected NUL byte"
  | .notUtf8 => "stream did not contain valid UTF-8"
  | .permissionDenied => "Permission denied (os error 13)"
  | .storageFull => "No space left on device (os error 28)"
  | .diskFailure => "Input/output error (os error 5)"

/-- What a location holds. -/
inductive Node where
  /-- A directory. -/
  | directory
  /-- A plain file. -/
  | file (content : Bytes)
  /-- A plain file that may be written to but not read. -/
  | unreadable (content : Bytes)
  /-- A database file. -/
  | database (content : Database)
deriving DecidableEq, Repr

/-- A plain file with other content, in place of what was there; its permissions stay. -/
def Node.refilled (content : Bytes) : Option Node → Node
  | some (.unreadable _) => .unreadable content
  | _ => .file content

/-- The node, which may be read. -/
def Node.readable : Node → Node
  | .unreadable content => .file content
  | node => node

/-- Why a change is refused. -/
structure Refusal where
  /-- The error. -/
  error : FileError
  /-- The number of bytes that are written before, when a file is filled. -/
  written : Nat
deriving DecidableEq, Repr

/-- The names of the directories on the way from the root, and the last name. -/
abbrev Files.Location := List String

/-- A tree of files. -/
structure Files where
  /-- The nodes below the root, each with its location. -/
  nodes : List (Files.Location × Node)
  /-- For each of the next changes the reason for which it is refused, if it is. -/
  refusals : List (Option Refusal)
deriving DecidableEq, Repr

namespace Files

/-- A tree without files. -/
def empty : Files := ⟨[], []⟩

/-! ## Paths -/

/-- Whether a path starts with a slash. -/
def startsInSlash (path : String) : Bool :=
  path.toList.head? = some '/'

/-- Whether a path ends with a slash. -/
def endsInSlash (path : String) : Bool :=
  path.toList.getLast? = some '/'

/-- The names in a path, of which `.` and `..` stand for a directory and the one above it. -/
def names (path : String) : List String :=
  ((path.toList.splitOnP (· = '/')).filter (· ≠ [])).map String.ofList

/-- The names in a path, without those that stay in place. -/
def components (path : String) : List String :=
  (names path).filter (· ≠ ".")

/-- The path `rel` as seen from the directory `base`. -/
def join (base rel : String) : String :=
  if startsInSlash rel then rel
  else if base = "" ∨ endsInSlash base then base ++ rel
  else base ++ "/" ++ rel

/-- The path of names from the root. -/
def pathOf (names : List String) : String :=
  "/" ++ "/".intercalate names

/-- The directory of a path. -/
def parent (path : String) : String :=
  pathOf (components path).dropLast

/-- The last component of a path, if it is a name of its own. -/
def fileName (path : String) : String :=
  match (components path).getLast? with
  | some name => if name = ".." then "" else name
  | none => ""

/-- The number of bytes from which on a path is too long. -/
def pathLimit : Nat := 4096

/-- The number of bytes that a name can have. -/
def maxName : Nat := 255

/-! ## Looking up -/

/-- The node at a location; the root is a directory. -/
def node? (files : Files) (location : Location) : Option Node :=
  if location = [] then some .directory else files.nodes.lookup location

/-- Follows names from a location on. What comes before a name must be a directory. -/
def walk (files : Files) (here : Location) : List String → Except FileError Location
  | [] => .ok here
  | name :: rest =>
    match files.node? here with
    | none => .error .notFound
    | some .directory =>
      if name = "." then walk files here rest
      else if name = ".." then walk files here.dropLast rest
      else if name.utf8ByteSize > maxName then .error .nameTooLong
      else walk files (here ++ [name]) rest
    | some _ => .error .notDirectory

/-- Why a path cannot even be followed, if so. -/
def refusal? (path : String) : Option FileError :=
  if path.toList.contains '\x00' then some .invalidName
  else if path = "" then some .notFound
  else if path.utf8ByteSize ≥ pathLimit then some .nameTooLong
  else none

/-- The location to which a path leads; a file need not exist there, unless the path ends with a
slash. -/
def locate (files : Files) (path : String) : Except FileError Location :=
  match refusal? path with
  | some e => .error e
  | none => files.walk [] (names path ++ if endsInSlash path then ["."] else [])

/-- Where a path has its last name, for a change there. -/
structure Place where
  /-- The directory. -/
  directory : Location
  /-- The last name; the root stays in place. -/
  name : String
  /-- Whether a slash comes after it. -/
  endsInSlash : Bool
deriving DecidableEq, Repr

namespace Place

/-- Whether the name stands for a directory by its place alone. -/
def isFixed (place : Place) : Bool := place.name = "." || place.name = ".."

/-- The location. -/
def location (place : Place) : Location := place.directory ++ [place.name]

end Place

/-- The place of a path, whose directory must be there. -/
def placeOf (files : Files) (path : String) : Except FileError Place := do
  if let some e := refusal? path then throw e
  let directory ← files.walk [] ((names path).dropLast ++ ["."])
  return ⟨directory, (names path).getLast?.getD ".", endsInSlash path⟩

/-- The node to which a path leads. -/
def find (files : Files) (path : String) : Except FileError Node := do
  match files.node? (← files.locate path) with
  | some node => return node
  | none => throw .notFound

/-- Whether a path leads to anything. -/
def exists? (files : Files) (path : String) : Bool :=
  (files.find path).toBool

/-- Whether a path leads to a directory. -/
def isDirectory (files : Files) (path : String) : Bool :=
  match files.find path with
  | .ok .directory => true
  | _ => false

/-- The content of a plain file. A database reads as bytes that are no text. -/
def read (files : Files) (path : String) : Except FileError Bytes := do
  match ← files.find path with
  | .directory => throw .isDirectory
  | .file content => return content
  | .unreadable _ => throw .permissionDenied
  | .database _ => return [0xff]

/-- The text of a plain file. -/
def readText (files : Files) (path : String) : Except FileError String := do
  match Bytes.toText? (← files.read path) with
  | some text => return text
  | none => throw .notUtf8

/-! ## Changes -/

/-- The tree with a node at a location. -/
def setNode (files : Files) (location : Location) (node : Node) : Files :=
  { files with nodes := (location, node) :: files.nodes.filter (·.1 ≠ location) }

/-- The tree with other content in the plain file at a location, which is made if it is missing. -/
def refill (files : Files) (location : Location) (content : Bytes) : Files :=
  files.setNode location (Node.refilled content (files.node? location))

/-- The tree without the node at a location. -/
def dropNode (files : Files) (location : Location) : Files :=
  { files with nodes := files.nodes.filter (·.1 ≠ location) }

end Files

/-- Changes a tree of files, or fails. -/
abbrev FilesM := ExceptT FileError (StateM Files)

namespace FilesM

/-- Whether the next change is refused, and why. -/
def nextRefusal : FilesM (Option Refusal) :=
  modifyGet fun files => (files.refusals.head?.join, { files with refusals := files.refusals.tail })

/-- Lets the next change be made, which is made as a whole, or refuses it. -/
def permit : FilesM Unit := do
  if let some refusal ← nextRefusal then throw refusal.error

/-- The place of a path for a change there. -/
def placeOf (path : String) : FilesM Files.Place := do
  match (← get).placeOf path with
  | .ok place => return place
  | .error e => throw e

/-- The node at a place, if its name can be looked up. -/
def nodeAt? (place : Files.Place) : FilesM (Option Node) := do
  if place.name.utf8ByteSize > Files.maxName then throw .nameTooLong
  return (← get).node? place.location

/-- Opens a plain file to be written anew. It is made if it is missing, and else emptied. -/
def openEmptied (path : String) : FilesM Files.Place := do
  let place ← placeOf path
  if place.isFixed || place.endsInSlash then throw .isDirectory
  if (← nodeAt? place) = some .directory then throw .isDirectory
  permit
  modify (·.refill place.location [])
  return place

/-- Fills a file that was opened. If this is refused before the last byte, the file is left with the
bytes that were written. -/
def fill (place : Files.Place) (content : Bytes) : FilesM Unit := do
  match ← nextRefusal with
  | none => modify (·.refill place.location content)
  | some refusal =>
    modify (·.refill place.location (content.take refusal.written))
    if refusal.written < content.length then throw refusal.error

/-- Writes a plain file in place of any other file. -/
def write (path : String) (content : Bytes) : FilesM Unit := do
  fill (← openEmptied path) content

/-- Lets the owner of a file read it and write to it. -/
def grantOwner (path : String) : FilesM Unit := do
  let files ← get
  match files.locate path with
  | .error e => throw e
  | .ok location =>
    match files.node? location with
    | none => throw .notFound
    | some node =>
      permit
      modify (·.setNode location node.readable)

/-- Makes the directory of a path, in one that is there. -/
def createDirectory (path : String) : FilesM Unit := do
  let place ← placeOf path
  if place.isFixed || (← nodeAt? place).isSome then throw .alreadyExists
  permit
  modify (·.setNode place.location .directory)

/-- Makes the directory of a path, unless it is there. -/
def ensureDirectory (path : String) : FilesM Unit := do
  try createDirectory path
  catch e =>
    if e ≠ .alreadyExists || !(← get).isDirectory path then throw e

/-- Makes the first directory of a list that can be made or is there; each is to hold the one before
it. The others, which are still missing, come last first. -/
def createFirst : List String → FilesM (List String)
  | [] => return []
  | path :: rest => do
    let isMissing ←
      try
        ensureDirectory path
        pure false
      catch e => if e = .notFound then pure true else throw e
    if isMissing then return (← createFirst rest) ++ [path]
    return []

/-- Makes the directory of a path and all those that lead to it. The path is taken as it stands,
those that lead to it by their names. -/
def createDirectories (path : String) : FilesM Unit := do
  let names := Files.components path
  let above := (List.range names.length).reverse.map fun count => Files.pathOf (names.take count)
  for missing in ← createFirst (path :: above) do
    ensureDirectory missing

/-- Moves a file to another path, in place of any file there. -/
def rename (source target : String) : FilesM Unit := do
  let origin ← placeOf source
  let goal ← placeOf target
  if origin.isFixed || goal.isFixed then throw .busy
  let node? ← nodeAt? origin
  let taken? ← nodeAt? goal
  match node? with
  | none => throw .notFound
  | some node =>
    if node ≠ .directory && (origin.endsInSlash || goal.endsInSlash) then throw .notDirectory
    if taken? = some .directory then throw .isDirectory
    permit
    modify fun files => (files.dropNode origin.location).setNode goal.location node

end FilesM

namespace Files

/-- The tree without a path and all that is below it. -/
def remove (files : Files) (path : String) : Files :=
  match files.locate path with
  | .ok location =>
    { files with nodes := files.nodes.filter fun entry => !location.isPrefixOf entry.1 }
  | .error _ => files

/-! ## Database files -/

/-- What is found where a database file is wanted. -/
inductive Opened where
  /-- The path leads nowhere, or to what cannot be read as a file. -/
  | unavailable
  /-- The file is no database. -/
  | foreign
  /-- The content of the database; a file that is missing or empty is an empty database. -/
  | content (database : Database)
deriving DecidableEq, Repr

/-- The number of bytes that the path of a database file can have. -/
def maxDatabasePath : Nat := 504

/-- Follows names of the path of a database file, by their text alone; but no name may be below a
file or too long. -/
def databaseWalk? (files : Files) (here : Location) : List String → Option Location
  | [] => some here
  | name :: rest =>
    if name = ".." then databaseWalk? files here.dropLast rest
    else
      let next := here ++ [name]
      match files.walk [] next with
      | .ok _ | .error .notFound => databaseWalk? files next rest
      | .error _ => none

/-- The location of the database file of a path: in a directory, and not a directory itself. -/
def databaseLocation? (files : Files) (path : String) : Option Location := do
  if path.toList.contains '\x00' then none
  let location ← files.databaseWalk? [] (components path)
  if (pathOf location).utf8ByteSize ≤ maxDatabasePath ∧
      files.node? location.dropLast = some .directory ∧ files.node? location ≠ some .directory then
    return location
  else none

/-- Opens the database file of a path. A file of one byte counts as empty. -/
def openDatabase (files : Files) (path : String) : Opened :=
  match files.databaseLocation? path with
  | none => .unavailable
  | some location =>
    match files.node? location with
    | some .directory | some (.unreadable _) => .unavailable
    | none | some (.file []) | some (.file [_]) => .content .empty
    | some (.file _) => .foreign
    | some (.database content) => .content content

/-- The tree with the content of the database file of a path. -/
def saveDatabase (files : Files) (path : String) (content : Database) : Files :=
  match files.databaseLocation? path with
  | some location => files.setNode location (.database content)
  | none => files

end Files

/-- Why a database file cannot be opened. -/
def Database.unavailable (path : String) : String :=
  "unable to open database file: " ++ path

/-- Why a file that is no database cannot be used. -/
def Database.foreign : String := "file is not a database"

end CredentialVault
