import CredentialStore.Credential.Basic
import CredentialStore.Credential.Record
import CredentialStore.ServerUrl
import CredentialStore.Table.Ordered
import CredentialStore.Toml.Basic
import CredentialStore.Toml.Reader
import CredentialStore.Toml.Writer

/-!
# The credentials file

One document (`FileCredentials`) holds all credentials by their names, in the order in which they
came, and tells which one is preferred. What is empty in an entry (`FileCredential`) or can be
recognised by the URL is not written. Main statements: `names_nodup` (no two credentials have one
name) and `toCredential_ofCredential` (an entry made from a credential stands for that credential).
-/

namespace CredentialStore.FileStore

/-- What a file tells about a credential besides its name: `FileCredential`. -/
structure Entry where
  guid : String := ""
  version : Nat := 0
  /-- Written only if the URL does not tell it. -/
  serverType : Option ServerType := none
  url : String := ""
  apiKey : String := ""
  token : String := ""
  privateKey : String := ""
  snowflakeConnection : String := ""
  accountId : String := ""
  accountName : String := ""
  refreshToken : String := ""
  accessToken : String := ""
  cloudEnvironment : Option CloudEnvironment := none
  deriving DecidableEq, Repr, Inhabited

namespace Entry

/-- The credential of an entry under a name: `to_credential`. -/
def toCredential (name : String) (e : Entry) : Credential where
  guid := e.guid
  name := name
  url := e.url
  serverType := e.serverType.getD (ServerType.ofUrl e.url)
  apiKey := e.apiKey
  token := e.token
  privateKey := e.privateKey
  snowflakeConnection := e.snowflakeConnection
  accountId := e.accountId
  accountName := e.accountName
  refreshToken := e.refreshToken
  accessToken := e.accessToken
  cloudEnvironment := e.cloudEnvironment.getD .production

/-- The entry of a credential. -/
def ofCredential (c : Credential) : Entry where
  guid := c.guid
  version := currentVersion
  serverType := if ServerType.ofUrl c.url = c.serverType then none else some c.serverType
  url := c.url
  apiKey := c.apiKey
  token := c.token
  privateKey := c.privateKey
  snowflakeConnection := c.snowflakeConnection
  accountId := c.accountId
  accountName := c.accountName
  refreshToken := c.refreshToken
  accessToken := c.accessToken
  cloudEnvironment := if c.serverType.isCloud then some c.cloudEnvironment else none

/-- An entry made from a credential stands for that credential; a server that is not the hosted
product has no deployment but the usual one. -/
theorem toCredential_ofCredential {c : Credential}
    (h : c.serverType.isCloud = false → c.cloudEnvironment = .production) :
    (ofCredential c).toCredential c.name = c := by
  have htype : (if ServerType.ofUrl c.url = c.serverType then none else some c.serverType).getD
      (ServerType.ofUrl c.url) = c.serverType := by
    by_cases hu : ServerType.ofUrl c.url = c.serverType <;> simp [hu]
  have hcloud : (if c.serverType.isCloud then some c.cloudEnvironment else none).getD
      .production = c.cloudEnvironment := by
    by_cases hc : c.serverType.isCloud = true
    · simp [hc]
    · simp only [Bool.not_eq_true] at hc
      simp [hc, h hc]
  obtain ⟨a, guid⟩ := c
  simp only [toCredential, ofCredential, htype, hcloud]

/-- Whether an entry tells a server and how to sign in to it: `is_valid`. -/
def isComplete (e : Entry) : Bool :=
  e.url != "" &&
    (e.apiKey != "" || e.token != "" || e.snowflakeConnection != "" || e.accessToken != "")

/-- The entry with the normal form of its URL, where it is complete and the URL has one. -/
def normalized (e : Entry) : Entry :=
  if e.isComplete then
    match ServerUrl.normalize e.url with
    | .ok url => { e with url }
    | .error _ => e
  else e

/-- The names of the fields in the order in which they are written. -/
def fieldNames : List String :=
  ["guid", "version", "server_type", "url", "api_key", "token", "private_key",
    "snowflake_connection", "account_id", "account_name", "refresh_token", "access_token",
    "cloud_environment"]

/-- Reads an entry. -/
def ofToml? (v : Toml) : Option Entry := do
  let fields ← v.fields? fieldNames
  return {
    guid := ← Toml.text? fields "guid"
    version := ← Toml.number? fields "version"
    serverType := ← Toml.optionalChoice? ServerType.ofText? fields "server_type"
    url := ← Toml.text? fields "url"
    apiKey := ← Toml.text? fields "api_key"
    token := ← Toml.text? fields "token"
    privateKey := ← Toml.text? fields "private_key"
    snowflakeConnection := ← Toml.text? fields "snowflake_connection"
    accountId := ← Toml.text? fields "account_id"
    accountName := ← Toml.text? fields "account_name"
    refreshToken := ← Toml.text? fields "refresh_token"
    accessToken := ← Toml.text? fields "access_token"
    cloudEnvironment := ← Toml.optionalChoice? CloudEnvironment.ofText? fields "cloud_environment" }

/-- A field that is left out if it is empty. -/
def ifPresent (name value : String) : List (String × Toml.Leaf) :=
  if value = "" then [] else [(name, .text value)]

/-- The fields that are written. -/
def toLines (e : Entry) : List (String × Toml.Leaf) :=
  [("guid", .text e.guid), ("version", .number e.version)] ++
    (e.serverType.map fun t => ("server_type", Toml.Leaf.text t.text)).toList ++
    [("url", .text e.url)] ++
    ifPresent "api_key" e.apiKey ++ ifPresent "token" e.token ++
    ifPresent "private_key" e.privateKey ++
    ifPresent "snowflake_connection" e.snowflakeConnection ++
    ifPresent "account_id" e.accountId ++ ifPresent "account_name" e.accountName ++
    ifPresent "refresh_token" e.refreshToken ++ ifPresent "access_token" e.accessToken ++
    (e.cloudEnvironment.map fun c => ("cloud_environment", Toml.Leaf.text c.text)).toList

end Entry

/-- The whole file: `FileCredentials`. -/
structure Document where
  defaultServer : Option String := none
  credentials : OrderedTable Entry := .empty
  deriving DecidableEq

namespace Document

/-- The key of the table that holds all entries. -/
def credentialsKey : String :=
  "credentials"

/-- The key of the preferred credential. -/
def defaultKey : String :=
  "default_server"

/-- All credentials. -/
def list (d : Document) : List Credential :=
  d.credentials.entries.map fun (name, e) => e.toCredential name

/-- The first credential with an identifier: `find_by_guid`. -/
def find? (d : Document) (guid : String) : Option Credential :=
  (d.credentials.entries.find? fun (_, e) => e.guid == guid).map fun (name, e) =>
    e.toCredential name

/-- Puts a credential under its name. -/
def put (d : Document) (c : Credential) : Document :=
  { d with credentials := d.credentials.insert c.name (Entry.ofCredential c) }

/-- No two credentials have one name. -/
theorem names_nodup (d : Document) : (d.list.map (·.name)).Nodup := by
  have h : d.list.map (·.name) = d.credentials.entries.map Prod.fst := by
    simp [list, Function.comp_def, Entry.toCredential]
  rw [h]
  exact d.credentials.keys_nodup

/-! ## Text -/

/-- Reads the entries of a table. -/
def entriesOf? : Toml → Option (OrderedTable Entry)
  | .table entries => do
    let es ← entries.mapM fun (name, v) => (Entry.ofToml? v).map fun e => (name, e)
    return OrderedTable.ofList es
  | _ => none

/-- Reads the text of a file, without a look at versions. -/
def parse? (text : String) : Option Document := do
  let fields ← Toml.read? text
  let defaultServer ← match Toml.field? fields defaultKey with
    | some v => v.string?.map some
    | none => some none
  let credentials ← match Toml.field? fields credentialsKey with
    | some v => entriesOf? v
    | none => some .empty
  return { defaultServer, credentials }

/-- The text of a file. -/
def write (d : Document) : String :=
  let first := (d.defaultServer.map fun guid => Toml.writeLine (defaultKey, .text guid)).toList
  let tables := d.credentials.entries.map fun (name, e) =>
    Toml.writeTable [credentialsKey, name] e.toLines
  Toml.writeParts <| first ++
    if tables.isEmpty then [Toml.writeTable [credentialsKey] []] else tables

/-- Refuses a document with an entry of a newer version. -/
def checkVersions (d : Document) : Except CredentialError Unit :=
  d.credentials.entries.forM fun (_, e) => checkVersion e.version

/-- The document with the normal forms of all URLs: `normalize_all`. -/
def normalized (d : Document) : Document :=
  { d with credentials := d.credentials.mapValues fun _ e => e.normalized }

/-- The document of a text; a text that is none is blamed on its path. -/
def load (path text : String) : Except CredentialError Document := do
  match parse? text with
  | none => throw (.corrupted path)
  | some d =>
    d.checkVersions
    return d.normalized

end Document

end CredentialStore.FileStore
