import CredentialStore.Credential.Conflict
import CredentialStore.Credential.Record
import CredentialStore.Credential.Validation
import CredentialStore.KeyringStore.Layout
import CredentialStore.SecretStore.Basic
import CredentialStore.Service

/-!
# Credentials in a keyring

The keyring backend, `KeyringCredentialsService`. Each credential is a record under a key of its
own. A store that cannot list its keys also has an index; a record and its place in the index are
written together, and when the second write fails the first one is taken back. A read that fails
means that the store cannot be loaded.
-/

namespace CredentialStore.KeyringStore

/-- The error of a read that fails: `as_load_error`. -/
def asLoadError : CredentialError → CredentialError
  | .keyring reason => .load reason
  | e => e

/-- The text under a key. -/
def read (key : String) : Op SecretStore (Option String) :=
  Op.mapError asLoadError (SecretStore.retrieve key)

/-! ## Index -/

/-- The index, `load_index`; a store without one has an empty one. -/
def loadIndex : Op SecretStore Index := do
  match ← read indexKey with
  | none => return .empty
  | some text =>
    match Index.read? text with
    | some index => return index
    | none => throw (.corrupted "credential index")

/-- Writes the index: `save_index`. -/
def saveIndex (index : Index) : Op SecretStore Unit :=
  SecretStore.put indexKey index.write

/-- The identifiers of all credentials. -/
def guids : Op SecretStore (List String) := do
  if ← SecretStore.canList then
    let keys ← Op.mapError asLoadError (SecretStore.keysFrom credentialStart)
    return keys.filterMap guidOf?
  else return (← loadIndex).keys

/-! ## Records -/

/-- The credential of a text that is kept under an identifier. -/
def decode (guid text : String) : Except CredentialError Credential :=
  match Record.read? text with
  | none => .error (.corrupted guid)
  | some r => if r.guid = guid then r.toCredential else .error (.corrupted guid)

/-- The credential with an identifier, if there is one: `load_credential`. -/
def load (guid : String) : Op SecretStore (Option Credential) := do
  match ← read (credentialKey guid) with
  | none => return none
  | some text => some <$> Op.ofExcept (decode guid text)

/-- The credentials with the identifiers of a list; one that is missing is reported. -/
def loadEach : List String → Op SecretStore (List Credential)
  | [] => return []
  | guid :: rest => do
    match ← load guid with
    | some c => return c :: (← loadEach rest)
    | none =>
      Op.warn (.missingEntry guid)
      loadEach rest

/-- All credentials: `load_all`. -/
def loadAll : Op SecretStore (List Credential) := do
  loadEach (← guids)

/-- Writes the record of a credential: `save_credential`. -/
def save (c : Credential) : Op SecretStore Unit :=
  SecretStore.put (credentialKey c.guid) (Record.ofCredential c).write

/-- Enters a credential into the index, where there is one to keep: `index_insert`. -/
def enter (c : Credential) : Op SecretStore Unit := do
  if ← SecretStore.canList then return
  let index ← loadIndex
  if index.find? c.guid = some c.name then return
  saveIndex (index.insert c.guid c.name)

/-- Takes a record back: restores the credential that it replaced, or removes it. -/
def takeBack (c : Credential) : Option Credential → Op SecretStore Unit
  | some previous => save previous
  | none => discard (SecretStore.remove (credentialKey c.guid))

/-- Writes a credential and its place in the index; if that fails, the record is taken back. -/
def persist (c : Credential) (previous : Option Credential) : Op SecretStore Unit := do
  save c
  match ← Op.attempt (enter c) with
  | .ok () => return
  | .error e =>
    match ← Op.attempt (takeBack c previous) with
    | .ok () => throw e
    | .error cause =>
      Op.warn (.rollbackFailed c.guid cause)
      throw e

/-! ## Operations -/

/-- The name of the backend: `backend_name`. -/
def backendName : String :=
  "keyring"

/-- The credential with an identifier. -/
def get (guid : String) : Op SecretStore Credential := do
  match ← load guid with
  | some c => return c
  | none => throw (.notFound guid)

/-- Stores a new credential unless it conflicts with another one. -/
def set (fresh : String) (details : Details) : Op SecretStore Credential := do
  let existing ← loadAll
  let c ← Op.ofExcept (details.toCredential fresh)
  Op.ofExcept (Credential.checkAll existing c)
  if existing.any (·.guid == c.guid) then
    throw (.storage ("credential guid " ++ c.guid ++ " is already in use"))
  persist c none
  return c

/-- Stores a credential in the place of the one of the same name: `force_set`. -/
def forceSet (fresh : String) (details : Details) : Op SecretStore Credential := do
  let existing ← loadAll
  let candidate ← Op.ofExcept (details.toCredential fresh)
  (Credential.overridden backendName existing candidate).forM Op.warn
  let previous := existing.find? (·.name == candidate.name)
  let c := match previous with
    | some p => { candidate with guid := p.guid }
    | none => candidate
  persist c previous
  return c

/-- The identifier of the preferred credential, without blanks at its ends: `default_guid`. -/
def defaultGuid : Op SecretStore (Option String) := do
  return (← read defaultKey).map Text.trim

/-- Removes a record and its place in the index; if the second fails, the record is restored. -/
def removeEntry (guid text : String) : Op SecretStore Unit := do
  let index ← if ← SecretStore.canList then pure none else some <$> loadIndex
  discard (SecretStore.remove (credentialKey guid))
  match index with
  | none => return
  | some index =>
    match ← Op.attempt (saveIndex (index.erase guid)) with
    | .ok () => return
    | .error e =>
      match ← Op.attempt (SecretStore.put (credentialKey guid) text) with
      | .ok () => throw e
      | .error cause =>
        Op.warn (.restoreFailed guid cause)
        throw e

/-- Removes a credential, and the preference for it. -/
def delete (guid : String) : Op SecretStore Unit := do
  match ← read (credentialKey guid) with
  | none => throw (.notFound guid)
  | some text =>
    removeEntry guid text
    if (← defaultGuid) = some guid then discard (SecretStore.remove defaultKey)

/-- Removes all credentials that can be enumerated, the index and the preference. -/
def reset : Op SecretStore ResetOutcome := do
  let found ← match ← Op.attempt guids with
    | .ok gs => pure gs
    | .error e => do
      Op.warn (.enumerationFailed e)
      pure []
  found.forM fun guid => discard (SecretStore.remove (credentialKey guid))
  discard (SecretStore.remove indexKey)
  discard (SecretStore.remove defaultKey)
  Op.warn (.keyringReset found.length)
  return {}

/-- The preferred credential: `default_server`. -/
def defaultServer : Op SecretStore (Option Credential) := do
  match ← defaultGuid with
  | some guid => load guid
  | none => return none

/-- Prefers a credential: `set_default_server`. -/
def setDefaultServer (guid : String) : Op SecretStore Unit := do
  match ← load guid with
  | some _ => SecretStore.put defaultKey guid
  | none => throw (.notFound guid)

/-- Prefers no credential: `clear_default_server`. -/
def clearDefaultServer : Op SecretStore Unit :=
  discard (SecretStore.remove defaultKey)

/-- Credentials in a keyring. -/
def service : Service SecretStore where
  name := backendName
  list := loadAll
  get := get
  set := set
  forceSet := forceSet
  delete := delete
  reset := reset
  defaultServer := defaultServer
  setDefaultServer := setDefaultServer
  clearDefaultServer := clearDefaultServer

end CredentialStore.KeyringStore
