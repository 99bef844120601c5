import CredentialStore.Config
import CredentialStore.FileStore.Basic
import CredentialStore.KeyringStore.Basic
import CredentialStore.KeyringStore.Legacy
import CredentialStore.Migration
import CredentialStore.SecretStore.SystemKeyring

/-!
# Sites

A site is a configuration together with what it can reach: a secret store that was handed to it, the
system keyring and the disk. It is a `CredentialsFactory` and the world around it. Opening a site
chooses a backend. The first time that this is a keyring, the legacy credentials are copied;
whatever comes of it, this is not tried again. Main statement: `settleMigration_of_ready` (a settled
migration stays as it is).
-/

namespace CredentialStore

/-- What has become of the migration of a site. -/
inductive MigrationState where
  | unchecked
  | notNeeded
  | migrated (count : Nat)
  | failed (reason : String)
  deriving DecidableEq, Repr, Inhabited

/-- Whether a migration is settled: `is_ready`. -/
def MigrationState.isReady : MigrationState → Bool
  | .unchecked => false
  | _ => true

/-- A configuration and what it can reach. -/
structure Site where
  config : Config := {}
  /-- The home directory. -/
  home : String := ""
  /-- A secret store that takes the place of the system keyring: `with_secret_store`. -/
  injected : Option SecretStore := none
  keyring : SystemKeyring := {}
  disk : Disk := {}
  migration : MigrationState := .unchecked

/-- Where a site keeps its credentials. -/
inductive Place where
  | injected
  | systemKeyring
  | file
  deriving DecidableEq, Repr

/-- An opened site: `OpenedStore`. -/
structure Opened where
  place : Place
  migration : MigrationState
  deriving DecidableEq, Repr

namespace Site

/-! ## Parts -/

def onDisk {α : Type} (x : Op Disk α) : Op Site α :=
  Op.zoom disk (fun s d => { s with disk := d }) x

def onKeyring {α : Type} (x : Op SystemKeyring α) : Op Site α :=
  Op.zoom keyring (fun s k => { s with keyring := k }) x

/-- The secret store at a place. -/
def secretStore (p : Place) (s : Site) : SecretStore :=
  match p with
  | .injected => s.injected.getD {}
  | _ => SystemKeyring.serviceStore s.config.serviceName s.keyring

/-- Puts the secret store at a place back. -/
def putSecretStore (p : Place) (s : Site) (t : SecretStore) : Site :=
  match p with
  | .injected => { s with injected := some t }
  | _ => { s with keyring := SystemKeyring.putService s.config.serviceName s.keyring t }

/-- The legacy credentials at a place. -/
def legacy (p : Place) : Service Site :=
  LegacyStore.service.zoom (secretStore p) (putSecretStore p)

/-- The path of the credentials file. -/
def filePath (s : Site) : String :=
  s.config.credentialsFile s.home

/-- The credentials at a place. -/
def service (s : Site) : Place → Service Site
  | .file => (FileStore.service s.filePath).zoom disk fun s d => { s with disk := d }
  | p => KeyringStore.service.zoom (secretStore p) (putSecretStore p)

/-! ## Opening -/

/-- Chooses the place, `secret_store`: a keyring where one is wanted and works, and otherwise the
file unless only a keyring will do. -/
def choose : Op Site Place := do
  let s ← Op.state
  if s.config.backend = .file then return .file
  if s.injected.isSome then return .injected
  if ← onKeyring (SystemKeyring.isAvailable s.config.serviceName) then return .systemKeyring
  if s.config.backend = .keyring then throw (.load "system keyring is not available")
  return .file

/-- Settles the migration in a state, unless it is settled already: `not_needed` at a file and
`ensure_migrated` at a keyring. -/
def settleMigration (find : Op Site MigrationState) : Op Site MigrationState := do
  let s ← Op.state
  if s.migration.isReady then return s.migration
  let m ← find
  let s ← Op.state
  Op.setState { s with migration := m }
  return m

/-- Copies the legacy credentials, if there are any. -/
def migrate (p : Place) (fresh : Nat → String) : Op Site MigrationState := do
  if !(← Op.zoom (secretStore p) (putSecretStore p) LegacyStore.isPresent) then return .notNeeded
  match ← Op.attempt (Migration.run (legacy p) ((← Op.state).service p) fresh) with
  | .ok report => return .migrated report.migrated.length
  | .error e =>
    Op.warn (.migrationFailed e)
    return .failed e.message

/-- Opens the site and migrates what is left of the legacy entry: `open`. -/
def openStore (fresh : Nat → String) : Op Site Opened := do
  match ← choose with
  | .file =>
    onDisk (FileStore.setUp (← Op.state).filePath)
    return ⟨.file, ← settleMigration (pure .notNeeded)⟩
  | p => return ⟨p, ← settleMigration (migrate p fresh)⟩

/-- Opens the site without a look at what it keeps: `open_for_reset`. -/
def openForReset : Op Site Place :=
  choose

/-- Removes everything that the site keeps, also the legacy entry. -/
def reset : Op Site ResetOutcome := do
  let p ← choose
  let outcome ← ((← Op.state).service p).reset
  if p ≠ .file then
    match ← Op.attempt (legacy p).reset with
    | .ok _ => pure ()
    | .error e => Op.warn (.legacyNotRemoved e)
  return outcome

/-- A settled migration stays as it is. -/
theorem settleMigration_of_ready {find : Op Site MigrationState} {s : Site}
    (h : s.migration.isReady = true) :
    settleMigration find s = ⟨.ok s.migration, s, []⟩ := by
  rw [settleMigration, Op.bind_state, if_pos h, Op.pure_apply]

end Site

end CredentialStore
