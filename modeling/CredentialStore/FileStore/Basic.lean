import CredentialStore.Config
import CredentialStore.Credential.Conflict
import CredentialStore.Credential.Validation
import CredentialStore.Disk.Basic
import CredentialStore.FileStore.Document
import CredentialStore.Service

/-!
# Credentials in a file

The file backend, `FileCredentialsService`. Every operation reads the file, and writes it anew if it
changes anything: to a file of another name first, which then takes the place of the old one. A new
file can be read by its owner only.
-/

namespace CredentialStore.FileStore

/-- The permission bits of a new file: `open_private`. -/
def privateMode : Nat := 0o600

/-- Runs an access to the disk that changes nothing. -/
def access {α : Type} (x : Disk → Except IoError α) : Op Disk (Except IoError α) := do
  return x (← Op.state)

/-- Runs an access that changes the disk, also where it fails. -/
def change (x : Disk → Except IoError Unit × Disk) : Op Disk Unit := do
  let (r, d) := x (← Op.state)
  Op.setState d
  match r with
  | .ok () => return
  | .error e => throw (.io e)

/-- The error of a file that cannot be read: `load_error`. -/
def loadError (path : String) (e : IoError) : CredentialError :=
  .load (path ++ ": " ++ e.message)

/-- The document at a path; a file that is not there is an empty one. -/
def load (path : String) : Op Disk Document := do
  match ← access (·.readText path) with
  | .error .notFound => return {}
  | .error e => throw (loadError path e)
  | .ok text => Op.ofExcept (Document.load path text)

/-- The path to which a new document is written first. -/
def temporaryPath (path : String) : String :=
  Path.withExtension path "tmp"

/-- Writes a document to a path: `save_file`. -/
def save (path : String) (document : Document) : Op Disk Unit := do
  let temporary := temporaryPath path
  change (·.writeFile temporary (Text.utf8 document.write.toList) privateMode false)
  change fun d => match d.renameFile temporary path with
    | .ok d => (.ok (), d)
    | .error e => (.error e, d)

/-- The path to which a document is copied before a reset. -/
def backupPath (path today : String) : String :=
  Path.withFileName path ((Path.fileName? path).getD credentialsFileName ++ "-" ++ today)

/-- Copies the file, if there is one: `backup_file`. -/
def backUp (path : String) : Op Disk (Option String) := do
  let d ← Op.state
  if !d.pathExists path then return none
  let backup := backupPath path d.today
  let (r, d) := d.copyFile path backup
  Op.setState d
  match r with
  | .ok () => return some backup
  | .error e => throw (.backupFile backup e.message)

/-- Makes sure that there is a file that can be read, `setup`: makes an empty one where there is
none. -/
def setUp (path : String) : Op Disk Unit := do
  if (← Op.state).pathExists path then
    match ← Op.attempt (load path) with
    | .ok _ => return
    | .error (.load reason) => throw (.load reason)
    | .error e => throw (.load e.message)
  else
    match Path.parent? path with
    | none => pure ()
    | some directory =>
      let (r, d) := (← Op.state).createDirectories directory
      Op.setState d
      match r with
      | .ok () => pure ()
      | .error e => throw (loadError path e)
    match ← Op.attempt (save path {}) with
    | .ok () => return
    | .error e => throw (.load e.message)

/-! ## Operations -/

/-- The name of the backend: `backend_name`. -/
def backendName : String :=
  "file"

/-- All credentials. -/
def list (path : String) : Op Disk (List Credential) := do
  return (← load path).list

/-- The credential with an identifier. -/
def get (path guid : String) : Op Disk Credential := do
  match (← load path).find? guid with
  | some c => return c
  | none => throw (.notFound guid)

/-- Stores a new credential unless it conflicts with another one. -/
def set (path fresh : String) (details : Details) : Op Disk Credential := do
  let document ← load path
  let c ← Op.ofExcept (details.toCredential fresh)
  Op.ofExcept (Credential.checkAll document.list c)
  if document.list.any (·.guid == c.guid) then
    throw (.storage ("credential guid " ++ c.guid ++ " is already in use"))
  save path (document.put c)
  return c

/-- Stores a credential in the place of the one of the same name, `force_set`; it takes the
identifier of that one if there is any. -/
def forceSet (path fresh : String) (details : Details) : Op Disk Credential := do
  let document ← load path
  let candidate ← Op.ofExcept (details.toCredential fresh)
  (Credential.overridden backendName document.list candidate).forM Op.warn
  let c := match document.credentials.find? candidate.name with
    | some previous =>
      if previous.guid = "" then candidate else { candidate with guid := previous.guid }
    | none => candidate
  save path (document.put c)
  return c

/-- Removes a credential, and the preference for it. -/
def delete (path guid : String) : Op Disk Unit := do
  let document ← load path
  match document.find? guid with
  | none => throw (.notFound guid)
  | some c =>
    save path {
      defaultServer := if document.defaultServer = some guid then none else document.defaultServer
      credentials := document.credentials.erase c.name }

/-- Copies the file and empties it, whatever it holds. A copy that fails is reported only. -/
def reset (path : String) : Op Disk ResetOutcome := do
  let outcome : ResetOutcome ← match ← Op.attempt (backUp path) with
    | .ok backup => pure { backup }
    | .error e => do
      Op.warn (.backupFailed e)
      pure { backupError := some e }
  save path {}
  Op.warn .fileReset
  match outcome.backup with
  | some backup => Op.warn (.backedUp backup)
  | none => pure ()
  return outcome

/-- The preferred credential: `default_server`. -/
def defaultServer (path : String) : Op Disk (Option Credential) := do
  let document ← load path
  return document.defaultServer.bind document.find?

/-- Prefers a credential: `set_default_server`. -/
def setDefaultServer (path guid : String) : Op Disk Unit := do
  let document ← load path
  match document.find? guid with
  | none => throw (.notFound guid)
  | some _ => save path { document with defaultServer := some guid }

/-- Prefers no credential: `clear_default_server`. -/
def clearDefaultServer (path : String) : Op Disk Unit := do
  let document ← load path
  if document.defaultServer.isSome then
    save path { document with defaultServer := none }

/-- Credentials in the file at a path. -/
def service (path : String) : Service Disk where
  name := backendName
  list := list path
  get := get path
  set := set path
  forceSet := forceSet path
  delete := delete path
  reset := reset path
  defaultServer := defaultServer path
  setDefaultServer := setDefaultServer path
  clearDefaultServer := clearDefaultServer path

end CredentialStore.FileStore
