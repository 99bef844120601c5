import CredentialStore.Json.Reader
import CredentialStore.Json.Structure
import CredentialStore.Json.Writer
import CredentialStore.Table.Sorted

/-!
# Layout of a keyring

The keys under which a secret store keeps credentials: one for each credential, one for the index of
their names where the store cannot list its keys, one for the preferred credential, and the one of
the legacy entry. Main statement: `guidOf?_credentialKey` (a key tells its identifier).
-/

namespace CredentialStore.KeyringStore

/-- How the keys of credentials start: `CREDENTIAL_PREFIX`. -/
def credentialStart : String :=
  "credential:"

/-- The key of a credential: `entry_key`. -/
def credentialKey (guid : String) : String :=
  credentialStart ++ guid

/-- The identifier in the key of a credential. -/
def guidOf? (key : String) : Option String :=
  if credentialStart.toList.isPrefixOf key.toList then
    some (String.ofList (key.toList.drop credentialStart.toList.length))
  else none

/-- The key of the index: `INDEX_KEY`. -/
def indexKey : String :=
  "credential-guids"

/-- The key of the preferred credential: `DEFAULT_SERVER_KEY`. -/
def defaultKey : String :=
  "default-server"

/-- The key of the legacy entry: `LEGACY_KEY`. -/
def legacyKey : String :=
  "credentials"

/-- The names of credentials by their identifiers: `CredentialIndex`. -/
abbrev Index := SortedTable String

namespace Index

/-- Reads the text of an index; of repeated identifiers the last one counts. -/
def read? (text : String) : Option Index := do
  match ← Json.read? text with
  | .object members =>
    let names ← members.mapM fun (guid, j) => j.string?.map fun n => (guid, n)
    return SortedTable.ofList names
  | _ => none

/-- The text of an index. -/
def write (index : Index) : String :=
  (Json.object (index.entries.map fun (guid, n) => (guid, .string n))).compact

end Index

theorem guidOf?_credentialKey (guid : String) : guidOf? (credentialKey guid) = some guid := by
  have hlist : (credentialKey guid).toList = credentialStart.toList ++ guid.toList := by
    simp [credentialKey]
  rw [guidOf?, hlist, List.drop_left, if_pos (by simp), String.ofList_toList]

end CredentialStore.KeyringStore
