import FlowEnrichment.FileTree.Path

/-!
# File trees

A pure model of files and of the operations that snapshots and settings need. Places are named
from the root; a path that does not start there starts at the working directory. Every operation
either completes or fails with the fault that the place it was given has, and a failed operation
changes nothing. There are no links and no permissions.
-/
namespace FlowEnrichment

/-- Why a file operation fails. -/
inductive FileFault where
  /-- A name does not exist. -/
  | notFound
  /-- A name in the middle of the path, or before its last slash, is a file. -/
  | notADirectory
  /-- A file was needed and a directory is there. -/
  | isADirectory
  /-- The place is taken. -/
  | alreadyExists
  /-- The place is a directory in use, such as the root. -/
  | busy
  /-- The path holds a zero byte. -/
  | zeroByte
  /-- A name or the path is too long. -/
  | nameTooLong
  /-- Any other reason. -/
  | other (reason : String)
  deriving DecidableEq, Repr

namespace FileFault

/-- The name of the kind of a fault. -/
def kind : FileFault → String
  | .notFound => "NotFound"
  | .notADirectory => "NotADirectory"
  | .isADirectory => "IsADirectory"
  | .alreadyExists => "AlreadyExists"
  | .busy => "ResourceBusy"
  | .zeroByte => "InvalidInput"
  | .nameTooLong => "InvalidFilename"
  | .other _ => "Other"

/-- The wording of a fault. -/
def message : FileFault → String
  | .notFound => "No such file or directory (os error 2)"
  | .notADirectory => "Not a directory (os error 20)"
  | .isADirectory => "Is a directory (os error 21)"
  | .alreadyExists => "File exists (os error 17)"
  | .busy => "Device or resource busy (os error 16)"
  | .zeroByte => "file name contained an unexpected NUL byte"
  | .nameTooLong => "File name too long (os error 36)"
  | .other reason => reason

end FileFault

/-- What is at a place. -/
inductive FileNode where
  /-- A file and its bytes. -/
  | file (content : List UInt8)
  /-- A directory. -/
  | directory
  deriving DecidableEq, Repr

/-- The names that lead from the root to a place. -/
abbrev Location := List String

/-- The places of a file system. -/
structure FileTree where
  /-- What is at each place, the newest first. -/
  nodes : List (Location × FileNode) := []
  /-- The working directory. -/
  working : Location := []
  deriving Repr, Inhabited

namespace FileTree

/-- What is at a location. The working directory and those above it are always there. -/
def node? (tree : FileTree) (location : Location) : Option FileNode :=
  if location <+: tree.working then some .directory else tree.nodes.lookup location

/-- The tree without anything at a location. -/
def remove (tree : FileTree) (location : Location) : FileTree :=
  { tree with nodes := tree.nodes.filter fun (place, _) => place ≠ location }

/-- The tree with something at a location, in place of what was there. -/
def set (tree : FileTree) (location : Location) (node : FileNode) : FileTree :=
  { tree with nodes := (location, node) :: (tree.remove location).nodes }

/-! ## Places -/

/-- The greatest number of bytes of a name. -/
def maxName : Nat := 255

/-- The greatest number of bytes of a path. -/
def maxPath : Nat := 4095

/-- Goes from a directory through names that must be directories. Above the root is the root. -/
def walk (tree : FileTree) : Location → List String → Except FileFault Location
  | here, [] => .ok here
  | here, name :: rest =>
    if name = "." then tree.walk here rest
    else if name = ".." then tree.walk here.dropLast rest
    else if maxName < name.utf8ByteSize then .error .nameTooLong
    else
      match tree.node? (here ++ [name]) with
      | none => .error .notFound
      | some (.file _) => .error .notADirectory
      | some .directory => tree.walk (here ++ [name]) rest

/-- A place that a path names: its directory and its name there. -/
structure Place where
  /-- The directory of the place. -/
  parent : Location
  /-- The name in it, which may be a point or two. -/
  name : String
  /-- Whether the path demands a directory. -/
  directory : Bool
  deriving Repr

namespace Place

/-- The location of the place. -/
def location (place : Place) : Location := place.parent ++ [place.name]

/-- Whether the name stands for a directory that is there already. -/
def isDots (place : Place) : Bool := place.name == "." || place.name == ".."

end Place

/-- The place that a path names. -/
def place (tree : FileTree) (path : String) : Except FileFault Place := do
  if path.toList.contains '\x00' then .error .zeroByte
  if maxPath < path.utf8ByteSize then .error .nameTooLong
  let parts := Path.parts path
  match parts.names.getLast? with
  | none => .error (if parts.absolute then .isADirectory else .notFound)
  | some name =>
    let parent ← tree.walk (if parts.absolute then [] else tree.working) parts.names.dropLast
    if maxName < name.utf8ByteSize then .error .nameTooLong
    return ⟨parent, name, parts.directory⟩

/-! ## Operations -/

/-- The bytes of a file. -/
def read (tree : FileTree) (path : String) : Except FileFault (List UInt8) := do
  let place ← tree.place path
  if place.isDots then .error .isADirectory
  match tree.node? place.location with
  | none => .error .notFound
  | some .directory => .error .isADirectory
  | some (.file content) => if place.directory then .error .notADirectory else .ok content

/-- Makes a file of bytes, in place of the file that was there. -/
def write (tree : FileTree) (path : String) (content : List UInt8) : Except FileFault FileTree := do
  let place ← tree.place path
  if place.isDots || place.directory then .error .isADirectory
  if tree.node? place.location = some .directory then .error .isADirectory
  return tree.set place.location (.file content)

/-- Whether there is something at a path. -/
def exists? (tree : FileTree) (path : String) : Bool :=
  match tree.place path with
  | .error fault => fault == .isADirectory
  | .ok place =>
    place.isDots ||
    match tree.node? place.location with
    | none => false
    | some .directory => true
    | some (.file _) => !place.directory

/-- Whether there is a directory at a path. -/
def isDirectory (tree : FileTree) (path : String) : Bool :=
  match tree.place path with
  | .error fault => fault == .isADirectory
  | .ok place => place.isDots || tree.node? place.location == some .directory

/-- Makes a directory in an existing one. -/
def makeDirectory (tree : FileTree) (path : String) : Except FileFault FileTree := do
  match tree.place path with
  | .error .isADirectory => .error .alreadyExists
  | .error fault => .error fault
  | .ok place =>
    if place.isDots then .error .alreadyExists
    match tree.node? place.location with
    | some _ => .error .alreadyExists
    | none => return tree.set place.location .directory

/-- Makes a directory after its missing parents, and reports the tree reached also if it fails.
A directory that is there already is no failure. -/
def makeDirectories : Nat → FileTree → String → FileTree × Except FileFault Unit
  | 0, tree, _ => (tree, .error (.other "failed to create whole tree"))
  | fuel + 1, tree, path =>
    if path.isEmpty then (tree, .ok ()) else
    match tree.makeDirectory path with
    | .ok tree => (tree, .ok ())
    | .error .notFound =>
      match Path.parent? path with
      | none => (tree, .error (.other "failed to create whole tree"))
      | some parent =>
        match makeDirectories fuel tree parent with
        | (tree, .error fault) => (tree, .error fault)
        | (tree, .ok ()) =>
          match tree.makeDirectory path with
          | .ok tree => (tree, .ok ())
          | .error fault => (tree, if tree.isDirectory path then .ok () else .error fault)
    | .error fault => (tree, if tree.isDirectory path then .ok () else .error fault)

/-- Makes a directory and all directories above it. -/
def ensureDirectory (tree : FileTree) (path : String) : FileTree × Except FileFault Unit :=
  makeDirectories (path.length + 2) tree path

/-- Moves a file to another place, in place of the file that was there. -/
def renameFile (tree : FileTree) (source target : String) : Except FileFault FileTree := do
  let content ← tree.read source
  let origin ← tree.place source
  match tree.place target with
  | .error .isADirectory => .error .busy
  | .error fault => .error fault
  | .ok place =>
    if place.isDots then .error .busy
    if place.directory then .error .notADirectory
    if tree.node? place.location = some .directory then .error .isADirectory
    return (tree.remove origin.location).set place.location (.file content)

/-- Removes a file. -/
def removeFile (tree : FileTree) (path : String) : Except FileFault FileTree := do
  let place ← tree.place path
  if place.isDots then .error .isADirectory
  match tree.node? place.location with
  | none => .error .notFound
  | some .directory => .error .isADirectory
  | some (.file _) =>
    if place.directory then .error .notADirectory else .ok (tree.remove place.location)

/-! ## Listing -/

/-- Whether a location comes before another, names being compared one after the other. -/
def locationLe : Location → Location → Bool
  | [], _ => true
  | _ :: _, [] => false
  | a :: as, b :: bs => if a < b then true else if b < a then false else locationLe as bs

/-- Every place below the working directory as a path, a directory before what it holds and with
a slash at its end. -/
def listing (tree : FileTree) : List String :=
  let below := tree.nodes.filterMap fun (location, node) =>
    if tree.working <+: location then some (location.drop tree.working.length, node) else none
  (below.mergeSort fun a b => locationLe a.1 b.1).map fun (location, node) =>
    let path := "/".intercalate location
    match node with
    | .file _ => path
    | .directory => path ++ "/"

end FileTree

end FlowEnrichment
