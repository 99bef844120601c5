import CredentialStore.Credential.Record
import CredentialStore.Guid.Basic
import CredentialStore.KeyringStore.Layout
import CredentialStore.SecretStore.Basic
import CredentialStore.Service
import CredentialStore.Table.Ordered

/-!
# The legacy entry

The legacy entry is a single entry of a keyring that holds all credentials by their names. As a
store, `LegacyKeyringCredentials`, it can be listed and removed, nothing else. A credential without
an identifier gets the one that its name determines, so that it is the same whenever the entry is
read.
-/

namespace CredentialStore.LegacyStore

open KeyringStore (legacyKey)

/-- Reads the text of the entry; of repeated names the last one counts, where the first one stands.
-/
def read? (text : String) : Option (OrderedTable Json) := do
  match ← Json.read? text with
  | .object members =>
    if members.all fun (_, j) => j.isRepresentable && j.nesting ≤ Record.maxNesting then
      some (OrderedTable.ofList (members.map fun (n, j) => (n, j.distinct)))
    else none
  | _ => none

/-- Whether a value has the form of a record: an object with an object of data in it. -/
def isRecord : Json → Bool
  | .object members =>
    match Json.field? members "data" with
    | some (.object _) => true
    | _ => false
  | _ => false

/-- The credential of a value, a record or the data of a credential itself. -/
def decodeValue (key : String) (j : Json) : Except CredentialError Credential :=
  if isRecord j then
    match Record.ofJson? j with
    | some r => r.toCredential
    | none => .error (.corrupted key)
  else
    match Credential.ofData? j with
    | some c => .ok c
    | none => .error (.corrupted key)

/-- The credential of a value under a name, with the name and the identifier that it lacks:
`decode_entry`. -/
def decode (key : String) (j : Json) : Except CredentialError Credential :=
  match decodeValue key j with
  | .error e => .error e
  | .ok c =>
    .ok { c with
      name := if c.name = "" then key else c.name
      guid := if c.guid = "" then Guid.ofName key else c.guid }

/-- The values by name. -/
def load : Op SecretStore (OrderedTable Json) := do
  match ← Op.attempt (SecretStore.retrieve legacyKey) with
  | .error e => throw (.load ("failed to load legacy credentials: " ++ e.message))
  | .ok none => return .empty
  | .ok (some text) =>
    match read? text with
    | some t => return t
    | none => throw (.corrupted legacyKey)

/-- Whether there is an entry that can be read: `is_supported`. -/
def isPresent : Op SecretStore Bool := do
  match ← Op.attempt (SecretStore.retrieve legacyKey) with
  | .ok (some _) => return true
  | _ => return false

/-- All credentials. -/
def list : Op SecretStore (List Credential) := do
  Op.ofExcept ((← load).entries.mapM fun (key, j) => decode key j)

/-- Removes the entry. -/
def reset : Op SecretStore ResetOutcome := do
  discard (SecretStore.remove legacyKey)
  return {}

/-- The legacy entry as a store; what it cannot do is `unsupported`. -/
def service : Service SecretStore where
  name := "legacy-keyring"
  list := list
  get _ := throw (.unsupported "individual credential get")
  set _ _ := throw (.unsupported "setting credentials")
  forceSet _ _ := throw (.unsupported "force setting credentials")
  delete _ := throw (.unsupported "individual credential deletion")
  reset := reset
  defaultServer := throw (.unsupported "default server")
  setDefaultServer _ := throw (.unsupported "default server")
  clearDefaultServer := throw (.unsupported "default server")

end CredentialStore.LegacyStore
