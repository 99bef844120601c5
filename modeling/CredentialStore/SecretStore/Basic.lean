import CredentialStore.Op
import CredentialStore.SecretStore.Fault
import CredentialStore.Table.Sorted

/-!
# Secret stores

A secret store keeps texts under keys: `SecretStore`, kept in memory (`MemorySecretStore`) or by the
system (`KeychainStorage`). Some can list their keys, in ascending order, and some cannot. Calls can
fail; a call that fails leaves the store as it is, except that it counts for the rules that say
which calls fail.
-/

namespace CredentialStore

/-- Where a secret store keeps its texts. -/
inductive SecretStoreKind where
  | memory
  | keychain
  deriving DecidableEq, Repr

/-- A secret store. -/
structure SecretStore where
  kind : SecretStoreKind := .memory
  /-- Whether it can list its keys; not so for a `MemorySecretStore` made by `without_listing`. -/
  listing : Bool := true
  entries : SortedTable String := .empty
  /-- Which calls fail. -/
  faults : List FaultRule := []
  /-- Writes to keys that start so are rejected, as `fail_writes_for` asks. -/
  rejected : Option String := none

namespace SecretStore

/-- The name shown for a store. -/
def displayName (s : SecretStore) : String :=
  match s.kind with
  | .memory => "In-Memory Secret Store"
  | .keychain => "Linux Secret Service"

/-- The error of a store that cannot list its keys. -/
def cannotList (s : SecretStore) : CredentialError :=
  match s.kind with
  | .memory => .keyring "Listing keys is not supported by this store"
  | .keychain => .keyring "Listing keys is not supported by keychain storage"

/-- Whether writes to a key are rejected: `check_writable`. -/
def rejects (s : SecretStore) (key : String) : Bool :=
  match s.rejected with
  | some start => start.toList.isPrefixOf key.toList
  | none => false

/-- Fails as the rules say, or lets a call reach the store. -/
def pass (call : SecretCall) (key : String) : Op SecretStore Unit := fun s =>
  let (e, faults) := FaultRule.consult call key s.faults
  let s := { s with faults }
  match e with
  | some e => ⟨.error e, s, []⟩
  | none => ⟨.ok (), s, []⟩

/-- Lets a write reach the store unless it is rejected. -/
def passWrite (call : SecretCall) (key : String) : Op SecretStore Unit := do
  pass call key
  if (← Op.state).rejects key then throw (.keyring ("write to " ++ key ++ " rejected"))

/-- Keeps a text under a key: `store`. -/
def put (key value : String) : Op SecretStore Unit := do
  passWrite .store key
  let s ← Op.state
  Op.setState { s with entries := s.entries.insert key value }

/-- The text under a key. -/
def retrieve (key : String) : Op SecretStore (Option String) := do
  pass .retrieve key
  return (← Op.state).entries.find? key

/-- Removes a key, and tells whether it was there: `delete`. -/
def remove (key : String) : Op SecretStore Bool := do
  passWrite .delete key
  let s ← Op.state
  Op.setState { s with entries := s.entries.erase key }
  return (s.entries.find? key).isSome

/-- Whether a key is there: `exists`. -/
def has (key : String) : Op SecretStore Bool := do
  return (← retrieve key).isSome

/-- The keys that start with a text, ascending: `list_keys`. -/
def keysFrom (start : String) : Op SecretStore (List String) := do
  pass .list start
  let s ← Op.state
  if s.listing then
    return s.entries.keys.filter fun key => start.toList.isPrefixOf key.toList
  else throw s.cannotList

/-- Whether the store can list its keys: `supports_listing`. -/
def canList : Op SecretStore Bool := do
  return (← Op.state).listing

end SecretStore

end CredentialStore
