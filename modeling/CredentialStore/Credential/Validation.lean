import CredentialStore.Credential.Basic
import CredentialStore.Error
import CredentialStore.ServerUrl

/-!
# Validation

The credential that details stand for: they need a name, a server URL and the complete fields of
exactly one way to sign in to that kind of server. The URL is stored in its normal form, and fields
of other ways to sign in are dropped. Main statement: `toCredential_guid` (an identifier that the
details carry is kept, any other credential gets the fresh one).
-/

namespace CredentialStore

open Text

/-- The error of a text that names no server. -/
def ServerUrl.Fault.error (raw : String) (fault : ServerUrl.Fault) : CredentialError :=
  .invalidUrl (fault.message raw)

namespace Details

/-- The URL to store: the one given, or that of the deployment for an account of the hosted product
that has none. -/
def effectiveUrl (d : Details) : String :=
  if isBlankText d.url ∧ d.serverType.isCloud then d.cloudEnvironment.frontendUrl else d.url

/-- The fields that an account of the hosted product lacks. -/
def missingCloudFields (d : Details) : List String :=
  ([("account id", d.accountId), ("account name", d.accountName),
    ("refresh token", d.refreshToken), ("access token", d.accessToken)].filter
      fun (_, value) => value == "").map Prod.fst

/-- The fields of the one way to sign in, without name and URL. -/
def signIn (d : Details) : Except CredentialError Attributes :=
  match d.serverType with
  | .connect =>
    let hasKey := d.apiKey != ""
    let hasToken := d.token != "" || d.privateKey != ""
    if hasKey && hasToken then
      .error (.incomplete "connect credentials take either an api key or a token pair, not both")
    else if hasKey then .ok { serverType := .connect, apiKey := d.apiKey }
    else if !hasToken then
      .error (.incomplete "connect credentials require an api key or a token pair")
    else if d.token = "" ∨ d.privateKey = "" then
      .error (.incomplete "token authentication requires both token and private key")
    else .ok { serverType := .connect, token := d.token, privateKey := d.privateKey }
  | .snowflake =>
    if d.snowflakeConnection = "" then
      .error (.incomplete "snowflake credentials require a connection name")
    else .ok { serverType := .snowflake, snowflakeConnection := d.snowflakeConnection }
  | .connectCloud =>
    let missing := d.missingCloudFields
    if missing.isEmpty then
      .ok {
        serverType := .connectCloud
        accountId := d.accountId
        accountName := d.accountName
        refreshToken := d.refreshToken
        accessToken := d.accessToken
        cloudEnvironment := d.cloudEnvironment }
    else
      .error (.incomplete ("connect cloud credentials require " ++ ", ".intercalate missing))

/-- The identifier to store: the one that the details carry, or a fresh one. -/
def effectiveGuid (d : Details) (fresh : String) : String :=
  match d.guid with
  | some guid => if guid = "" then fresh else guid
  | none => fresh

/-- The credential that details stand for: `to_credential`. -/
def toCredential (d : Details) (fresh : String) : Except CredentialError Credential :=
  if isBlankText d.name then .error (.incomplete "name is required")
  else
    let url := d.effectiveUrl
    if isBlankText url then .error (.incomplete "url is required")
    else match ServerUrl.normalize url with
      | .error fault => .error (fault.error url)
      | .ok normal =>
        match d.signIn with
        | .error e => .error e
        | .ok a =>
          .ok { a with name := d.name, url := normal, guid := d.effectiveGuid fresh }

theorem toCredential_guid {d : Details} {fresh : String} {c : Credential}
    (h : d.toCredential fresh = .ok c) : c.guid = d.effectiveGuid fresh := by
  unfold toCredential at h
  split at h
  · cases h
  · dsimp only at h
    split at h
    · cases h
    · split at h
      · cases h
      · split at h
        · cases h
        · cases h
          rfl

end Details

end CredentialStore
