import CredentialStore.Credential.Json
import CredentialStore.Error
import CredentialStore.Json.Reader
import CredentialStore.Json.Writer

/-!
# Records

The text under which a credential is kept in a secret store: an envelope (`CredentialRecord`) with
the identifier and the version around the data of the credential. The envelope is read without
looking into the data, so that a record of a newer version is told from a broken one.
-/

namespace CredentialStore

/-! ## Versions -/

/-- The version that is written: `CURRENT_VERSION`. -/
def currentVersion : Nat := 1

/-- Refuses a version that is newer than the one that is written: `check_version`. -/
def checkVersion (version : Nat) : Except CredentialError Unit :=
  if version ≤ currentVersion then .ok () else .error (.version version)

theorem checkVersion_eq_ok_iff {version : Nat} :
    checkVersion version = .ok () ↔ version ≤ currentVersion := by
  unfold checkVersion
  split <;> simp_all

/-! ## Envelopes -/

/-- An envelope around the data of a credential: `CredentialRecord`. -/
structure Record where
  guid : String
  version : Nat
  data : Json
  deriving Repr, Inhabited

namespace Record

/-- The names of the members. -/
def memberNames : List String :=
  ["guid", "version", "data"]

/-- How deep the data of a record nests at most. -/
def maxNesting : Nat := 126

/-- The envelope in a JSON value. -/
def ofJson? (j : Json) : Option Record := do
  let fields ← j.fields? memberNames
  return {
    guid := ← Json.text? fields "guid"
    version := ← Json.number? fields "version"
    data := ← Json.field? fields "data" }

/-- Reads the text of a record. Its data has to be representable and not too deep; of repeated
members inside it the last one counts. -/
def read? (text : String) : Option Record := do
  let r ← ofJson? (← Json.read? text)
  if r.data.isRepresentable ∧ r.data.nesting ≤ maxNesting then
    some { r with data := r.data.distinct }
  else none

/-- The record of a credential. -/
def ofCredential (c : Credential) : Record :=
  ⟨c.guid, currentVersion, c.toData⟩

/-- The text of a record. -/
def write (r : Record) : String :=
  (Json.object
    [("guid", .string r.guid), ("version", .integer r.version), ("data", r.data)]).compact

/-- The credential of a record, `to_credential`; its version is looked at before its data. -/
def toCredential (r : Record) : Except CredentialError Credential :=
  match checkVersion r.version with
  | .error e => .error e
  | .ok () =>
    match Credential.ofData? r.data with
    | none => .error (.corrupted r.guid)
    | some c =>
      if c.guid ≠ "" ∧ r.guid ≠ "" ∧ c.guid ≠ r.guid then .error (.corrupted r.guid)
      else .ok (if c.guid = "" then { c with guid := r.guid } else c)

end Record

end CredentialStore
