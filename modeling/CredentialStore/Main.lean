import CredentialStore.CommandLine.Run
import Std.Time.Zoned

/-!
# The program

Reads the part of the disk that a call can touch, runs the call on it, and writes back what has
changed. The system keyring is not connected, so that only the file backend is of use.
-/

namespace CredentialStore.Program

/-- What is at a path. A path is only looked at if it lies in a directory, so that a wrong type
means that it is one itself. -/
def readNode (path : String) : IO (Option DiskNode) := do
  try
    return some (.file (← IO.FS.readBinFile path).toList FileStore.privateMode)
  catch
    | .inappropriateType .. => return some .directory
    | _ => return none

/-- Adds what is at a path and at the directories on the way to it. -/
def readAlong (d : Disk) (above : List String) : List String → IO Disk
  | [] => return d
  | name :: rest => do
    let here := above ++ [name]
    match ← readNode (Disk.keyOf here) with
    | some .directory => readAlong (d.setNode here .directory) here rest
    | some node => return d.setNode here node
    | none => return d

/-- The date of today in the form that names copies. -/
def today : IO String := do
  let date ← Std.Time.PlainDate.now
  let two (n : Nat) : String := String.ofList (List.replicate (2 - (Text.decimal n).length) '0') ++
    Text.decimal n
  return Text.decimal date.year.toInt.toNat ++ "-" ++ two date.month.toNat ++ "-" ++
    two date.day.toNat

/-- The paths that a call can touch. -/
def touched (site : Site) : List String :=
  let path := site.filePath
  [path, FileStore.temporaryPath path, FileStore.backupPath path site.disk.today]

/-- The rights of permission bits. -/
def rights (mode : Nat) : IO.FileRight :=
  let access (bits : Nat) : IO.AccessRight :=
    { read := bits.testBit 2, write := bits.testBit 1, execution := bits.testBit 0 }
  { user := access (mode / 64), group := access (mode / 8), other := access mode }

/-- Brings what is at a path to the disk. -/
def writeNode (path : String) : DiskNode → IO Unit
  | .directory => IO.FS.createDirAll path
  | .file bytes mode => do
    let temporary := FileStore.temporaryPath path
    IO.FS.writeBinFile temporary (ByteArray.mk bytes.toArray)
    IO.setAccessRights temporary (rights mode)
    IO.FS.rename temporary path

/-- Writes back what has changed. -/
def writeBack (before after : Disk) : IO Unit := do
  for (path, _) in before.nodes.entries do
    if (after.nodes.find? path).isNone then IO.FS.removeFile path
  for (path, node) in after.nodes.entries do
    if before.nodes.find? path ≠ some node then writeNode path node

/-- The values of the variables that the program reads. -/
def environment : IO (List (String × String)) := do
  let names := [Config.backendVariable, Config.fileVariable, CommandLine.apiKeyVariable]
  return (← names.mapM fun name => return (name, ← IO.getEnv name)).filterMap fun (name, value) =>
    value.map fun text => (name, text)

/-- The site of a call, with the disk as far as the call can touch it. -/
def siteOf (lookup : String → Option String) (args : List String) : IO Site := do
  let directory := Path.components (← IO.currentDir).toString
  let disk : Disk := { workingDirectory := directory, today := ← today }
  let site : Site := { home := (← IO.getEnv "HOME").getD "", disk }
  match CommandLine.readRequest lookup args with
  | .run i =>
    let site := { site with config := i.config }
    let start (path : String) : List String :=
      if Path.isAbsolute path then Path.components path else directory ++ Path.components path
    let disk ← (touched site).foldlM (fun d path => readAlong d [] (start path)) disk
    return { site with disk }
  | _ => return site

/-- Runs the program. -/
def run (args : List String) : IO UInt32 := do
  let given ← environment
  let lookup (name : String) : Option String := (given.find? (·.1 == name)).map (·.2)
  let site ← siteOf lookup args
  let fresh := Guid.ofRandom (← IO.getRandomBytes 16).toList
  let (report, after) := CommandLine.run lookup args fresh site
  writeBack site.disk after.disk
  IO.print report.output
  IO.eprint report.errors
  return UInt32.ofNat report.code

end CredentialStore.Program

/-- Runs the program with the arguments of the command line. -/
def main (args : List String) : IO UInt32 :=
  CredentialStore.Program.run args
