import CredentialStore.SecretStore.Basic

/-!
# The system keyring

The keyring of the system keeps the entries of many services and is in one of a few states of
repair. The entries of one service are a secret store that cannot list its keys: `KeychainStorage`.
Main statement: `serviceStore_putService` (what is put back for a service is what it holds then).
-/

namespace CredentialStore

/-- The state of repair of the system keyring. -/
inductive KeyringMode where
  | absent
  | locked
  | readonly
  /-- Texts can be written but not read back. -/
  | garbled
  | working
  deriving DecidableEq, Repr

namespace KeyringMode

/-- The mode of a name. -/
def ofName? : String → Option KeyringMode
  | "absent" => some .absent
  | "locked" => some .locked
  | "readonly" => some .readonly
  | "garbled" => some .garbled
  | "working" => some .working
  | _ => none

/-- The calls that fail, and how they fail. -/
def failing : KeyringMode → List (SecretCall × String)
  | .absent =>
    let text := "Platform secure storage failure: no keyring"
    [(.store, text), (.retrieve, text), (.delete, text)]
  | .locked =>
    let text := "Couldn't access platform secure storage: the keyring is locked"
    [(.store, text), (.retrieve, text), (.delete, text)]
  | .readonly =>
    let text := "Couldn't access platform secure storage: the keyring is locked"
    [(.store, text), (.delete, text)]
  | .garbled => [(.retrieve, "Password cannot be UTF-8 encoded")]
  | .working => []

/-- The rules for failing calls; they are never used up. -/
def faults (m : KeyringMode) : List FaultRule :=
  m.failing.map fun (call, text) => { call, keyStart := "", error := .keyring text }

end KeyringMode

/-- The system keyring. -/
structure SystemKeyring where
  mode : KeyringMode := .absent
  /-- The entries of each service. -/
  services : SortedTable (SortedTable String) := .empty

namespace SystemKeyring

/-- The entries of a service. -/
def entriesOf (k : SystemKeyring) (service : String) : SortedTable String :=
  (k.services.find? service).getD .empty

/-- The secret store of a service. -/
def serviceStore (service : String) (k : SystemKeyring) : SecretStore :=
  { kind := .keychain, listing := false, entries := k.entriesOf service, faults := k.mode.faults }

/-- Puts the entries of a service back. -/
def putService (service : String) (k : SystemKeyring) (s : SecretStore) : SystemKeyring :=
  { k with services := k.services.insert service s.entries }

/-- Runs an operation on the store of a service. -/
def onService {α : Type} (service : String) (x : Op SecretStore α) : Op SystemKeyring α :=
  Op.zoom (serviceStore service) (putService service) x

/-- The key under which the keyring is tried out: `AVAILABILITY_PROBE_KEY`. -/
def probeKey : String :=
  "__availability_probe__"

/-- Whether the keyring takes an entry of a service, `is_available`; the entry is removed again. -/
def isAvailable (service : String) : Op SystemKeyring Bool :=
  onService service do
    match ← Op.attempt (SecretStore.put probeKey "probe") with
    | .error _ => return false
    | .ok () =>
      discard <| Op.attempt (SecretStore.remove probeKey)
      return true

/-- What is put back for a service is what it holds then. -/
theorem serviceStore_putService (service : String) (k : SystemKeyring) (s : SecretStore) :
    (serviceStore service (putService service k s)).entries = s.entries := by
  simp [serviceStore, putService, entriesOf, SortedTable.find?_insert]

end SystemKeyring

end CredentialStore
