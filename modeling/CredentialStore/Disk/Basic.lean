import CredentialStore.Disk.IoError
import CredentialStore.Disk.Path
import CredentialStore.Table.Sorted
import CredentialStore.Text.Basic

/-!
# Disks

Files and directories by their absolute paths, as far as a credentials file and its neighbours need
them. A file has bytes and permission bits. An access fails where the path leads nowhere, to the
wrong kind of thing or is too long, and a write can run out of space when the file has already been
cut.

The disk is that of a process that may access everything: permission bits are kept, copied and set,
but no access is refused for them. There are no symbolic or hard links, so that two places are never
one file, and no devices or other special files.
-/

namespace CredentialStore

/-- What is at a path. -/
inductive DiskNode where
  | file (bytes : List UInt8) (mode : Nat)
  | directory
  deriving DecidableEq, Repr

/-- A disk. -/
structure Disk where
  /-- What is at each absolute path; the root is a directory without an entry. -/
  nodes : SortedTable DiskNode := .empty
  /-- Where paths start that do not start at the root. -/
  workingDirectory : List String := []
  /-- How many bytes a file can hold; without a number any number. -/
  capacity : Option Nat := none
  /-- The date of the clock, year, month and day with hyphens between them. -/
  today : String := ""

namespace Disk

/-- The absolute path of components. -/
def keyOf (components : List String) : String :=
  String.join (components.map ("/" ++ ·))

/-- What is at the end of components. -/
def nodeAt (d : Disk) (components : List String) : Option DiskNode :=
  if components.isEmpty then some .directory else d.nodes.find? (keyOf components)

/-- The longest name and the longest path, in bytes. -/
def maxName : Nat := 255

def maxPath : Nat := 4095

/-- Walks down from a directory, given in reverse, and finds the place of the last component. All
that is passed on the way has to be a directory. -/
def walk (d : Disk) (above : List String) : List String → Except IoError (List String)
  | [] => .ok above.reverse
  | name :: rest =>
    if maxName < name.utf8ByteSize then .error .nameTooLong
    else
      let here := if name = ".." then above.drop 1 else name :: above
      if rest.isEmpty then .ok here.reverse
      else match d.nodeAt here.reverse with
        | none => .error .notFound
        | some (.file _ _) => .error .notADirectory
        | some .directory => d.walk here rest

/-- The place of a path. -/
def locate (d : Disk) (path : String) : Except IoError (List String) :=
  if path.isEmpty then .error .notFound
  else if maxPath < path.utf8ByteSize then .error .nameTooLong
  else d.walk (if Path.isAbsolute path then [] else d.workingDirectory.reverse)
    (Path.components path)

/-- What is at a path. -/
def lookup (d : Disk) (path : String) : Except IoError (List String × Option DiskNode) := do
  let place ← d.locate path
  match d.nodeAt place with
  | some (.file bytes mode) =>
    if Path.namesDirectory path then throw .notADirectory
    return (place, some (.file bytes mode))
  | node => return (place, node)

/-- Whether anything is at a path. -/
def pathExists (d : Disk) (path : String) : Bool :=
  match d.lookup path with
  | .ok (_, some _) => true
  | _ => false

/-- The bytes of a file. -/
def readBytes (d : Disk) (path : String) : Except IoError (List UInt8) := do
  match ← d.lookup path with
  | (_, none) => throw .notFound
  | (_, some .directory) => throw .isADirectory
  | (_, some (.file bytes _)) => return bytes

/-- The text of a file. -/
def readText (d : Disk) (path : String) : Except IoError String := do
  match Text.ofUtf8? (← d.readBytes path) with
  | some cs => return String.ofList cs
  | none => throw .notText

/-- Sets what is at a place. -/
def setNode (d : Disk) (place : List String) (node : DiskNode) : Disk :=
  { d with nodes := d.nodes.insert (keyOf place) node }

/-- Whether there is a directory at the end of components, below the ones given in reverse. -/
def isDirectory (d : Disk) (above components : List String) : Bool :=
  match d.walk above components with
  | .ok place => d.nodeAt place = some .directory
  | .error _ => false

/-- Makes a directory where there is nothing. -/
def makeDirectory (d : Disk) (above components : List String) : Except IoError Disk := do
  let place ← d.walk above components
  match d.nodeAt place with
  | none => return d.setNode place .directory
  | some _ => throw .alreadyExists

/-- Makes sure that there is a directory where all around it is there. -/
def ensureDirectory (d : Disk) (above components : List String) : Except IoError Unit × Disk :=
  match d.makeDirectory above components with
  | .ok d => (.ok (), d)
  | .error e => (if d.isDirectory above components then .ok () else .error e, d)

/-- Makes sure that there is a directory at the end of components, given in reverse, and makes the
ones around it where they are missing. What has been made before a failure stays. -/
def ensureDirectories (d : Disk) (above : List String) : List String → Except IoError Unit × Disk
  | [] => (.ok (), d)
  | name :: around =>
    let components := (name :: around).reverse
    match d.makeDirectory above components with
    | .error .notFound =>
      match d.ensureDirectories above around with
      | (.ok (), d) => d.ensureDirectory above components
      | failed => failed
    | _ => d.ensureDirectory above components

/-- Makes sure that there is a directory at a path, with the ones around it. -/
def createDirectories (d : Disk) (path : String) : Except IoError Unit × Disk :=
  if maxPath < path.utf8ByteSize then (.error .nameTooLong, d)
  else d.ensureDirectories (if Path.isAbsolute path then [] else d.workingDirectory.reverse)
    (Path.components path).reverse

/-- A file of bytes as far as the disk has room for them, and whether it has. -/
def putFile (d : Disk) (place : List String) (bytes : List UInt8) (mode : Nat) : Disk × Bool :=
  match d.capacity with
  | none => (d.setNode place (.file bytes mode), true)
  | some room => (d.setNode place (.file (bytes.take room) mode), bytes.length ≤ room)

/-- Writes a file. A new one gets the mode, one that is there keeps its own unless the mode is to be
set. What is left when the disk runs out of room stays written. -/
def writeFile (d : Disk) (path : String) (bytes : List UInt8) (mode : Nat) (setMode : Bool) :
    Except IoError Unit × Disk :=
  match d.lookup path with
  | .error e => (.error e, d)
  | .ok (_, some .directory) => (.error .isADirectory, d)
  | .ok (place, node) =>
    if Path.namesDirectory path then (.error .isADirectory, d)
    else
      let mode := match node with
        | some (.file _ old) => if setMode then mode else old
        | _ => mode
      let (written, complete) := d.putFile place bytes mode
      (if complete then .ok () else .error .noSpace, written)

/-- Moves a file to another path, where it takes the place of a file that is there. A path that ends
in a dot names the directory itself, which is in use. -/
def renameFile (d : Disk) (source target : String) : Except IoError Disk := do
  match ← d.lookup source with
  | (_, none) => throw .notFound
  | (_, some .directory) => throw .isADirectory
  | (place, some node) =>
    let (newPlace, old) ← d.lookup target
    if Path.endsInDot target then throw (if old.isNone then .notFound else .busy)
    if Path.namesDirectory target then throw .notADirectory
    if old = some .directory then throw .isADirectory
    return { d with nodes := (d.nodes.erase (keyOf place)).insert (keyOf newPlace) node }

/-- Copies a file with its permission bits. -/
def copyFile (d : Disk) (source target : String) : Except IoError Unit × Disk :=
  match d.lookup source with
  | .error e => (.error e, d)
  | .ok (_, none) => (.error .notFound, d)
  | .ok (_, some .directory) => (.error .notRegularFile, d)
  | .ok (_, some (.file bytes mode)) => d.writeFile target bytes mode true

end Disk

end CredentialStore
