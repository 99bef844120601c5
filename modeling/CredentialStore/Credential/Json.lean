import CredentialStore.Credential.Basic
import CredentialStore.Json.Structure

/-!
# Credentials in JSON

The members of a credential. Read as the answer of a store, every member has to be there; read as
stored data (`CredentialData`), an absent one is empty, and the kind of server is recognised by the
URL.
-/

namespace CredentialStore.Credential

/-- The members of a credential, in the order in which they are shown. -/
def members (c : Credential) : List (String × CredentialStore.Json) :=
  [("guid", .string c.guid), ("name", .string c.name), ("url", .string c.url),
    ("serverType", .string c.serverType.text), ("apiKey", .string c.apiKey),
    ("token", .string c.token), ("privateKey", .string c.privateKey),
    ("snowflakeConnection", .string c.snowflakeConnection), ("accountId", .string c.accountId),
    ("accountName", .string c.accountName), ("refreshToken", .string c.refreshToken),
    ("accessToken", .string c.accessToken),
    ("cloudEnvironment", .string c.cloudEnvironment.text)]

/-- The names of the members. -/
def memberNames : List String :=
  ({} : Credential).members.map Prod.fst

/-- The form in which a credential is shown. -/
def toJson (c : Credential) : CredentialStore.Json :=
  .object c.members

/-- The form in which a credential is stored: the members in the order of their names. -/
def toData (c : Credential) : CredentialStore.Json :=
  .object [("accessToken", .string c.accessToken), ("accountId", .string c.accountId),
    ("accountName", .string c.accountName), ("apiKey", .string c.apiKey),
    ("cloudEnvironment", .string c.cloudEnvironment.text), ("guid", .string c.guid),
    ("name", .string c.name), ("privateKey", .string c.privateKey),
    ("refreshToken", .string c.refreshToken), ("serverType", .string c.serverType.text),
    ("snowflakeConnection", .string c.snowflakeConnection), ("token", .string c.token),
    ("url", .string c.url)]

/-- Reads stored data: `into_credential`. -/
def ofData? (j : CredentialStore.Json) : Option Credential := do
  let fields ← j.fields? memberNames
  let serverType ← Json.optionalChoice? ServerType.ofText? fields "serverType"
  let cloudEnvironment ← Json.optionalChoice? CloudEnvironment.ofText? fields "cloudEnvironment"
  let url ← Json.text? fields "url"
  return {
    guid := ← Json.text? fields "guid"
    name := ← Json.text? fields "name"
    url := url
    serverType := serverType.getD (ServerType.ofUrl url)
    apiKey := ← Json.text? fields "apiKey"
    token := ← Json.text? fields "token"
    privateKey := ← Json.text? fields "privateKey"
    snowflakeConnection := ← Json.text? fields "snowflakeConnection"
    accountId := ← Json.text? fields "accountId"
    accountName := ← Json.text? fields "accountName"
    refreshToken := ← Json.text? fields "refreshToken"
    accessToken := ← Json.text? fields "accessToken"
    cloudEnvironment := cloudEnvironment.getD .production }

/-- Reads the form in which a credential is shown: stored data without an absent member or an absent
choice. -/
def ofJson? (j : CredentialStore.Json) : Option Credential := do
  let fields ← j.fields? memberNames
  let isChoice (name : String) : Bool := match Json.field? fields name with
    | some .null => false
    | _ => true
  if fields.length = memberNames.length ∧ isChoice "serverType" ∧ isChoice "cloudEnvironment" then
    ofData? j
  else none

end CredentialStore.Credential
