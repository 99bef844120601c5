import CredentialStore.Credential.ServerType
import CredentialStore.Text.Description

/-!
# Credentials

What a store keeps about a server and how it is shown. A credential has an identifier that the store
gave it; the details that a caller hands in to be stored (`CreateCredentialDetails`) have none,
unless they recreate a credential. Secrets are shown as a fixed text, or as nothing where there is
none.
-/

namespace CredentialStore

open Text

/-- What is known about a server and how to sign in to it. Only the fields of one way to sign in are
in use, the others are empty. -/
structure Attributes where
  name : String := ""
  url : String := ""
  serverType : ServerType := .connect
  apiKey : String := ""
  token : String := ""
  privateKey : String := ""
  snowflakeConnection : String := ""
  accountId : String := ""
  accountName : String := ""
  refreshToken : String := ""
  accessToken : String := ""
  cloudEnvironment : CloudEnvironment := .production
  deriving DecidableEq, Repr, Inhabited

/-- A stored credential. -/
structure Credential extends Attributes where
  guid : String := ""
  deriving DecidableEq, Repr, Inhabited

/-- What a caller asks to store: `CreateCredentialDetails`. -/
structure Details extends Attributes where
  /-- Given only to recreate a credential under its identifier. -/
  guid : Option String := none
  deriving DecidableEq, Repr, Inhabited

/-- What is shown in place of a secret. -/
def redact (secret : String) : String :=
  if secret = "" then "" else "[REDACTED]"

namespace Attributes

/-- The attributes without their secrets. -/
def redacted (a : Attributes) : Attributes :=
  { a with
    apiKey := redact a.apiKey
    privateKey := redact a.privateKey
    refreshToken := redact a.refreshToken
    accessToken := redact a.accessToken }

/-- The fields of a description, behind the one of the identifier. -/
def descriptionFields (a : Attributes) : List (String × String) :=
  let shown := a.redacted
  [("name", quoted shown.name), ("url", quoted shown.url),
    ("server_type", shown.serverType.describe), ("api_key", quoted shown.apiKey),
    ("token", quoted shown.token), ("private_key", quoted shown.privateKey),
    ("snowflake_connection", quoted shown.snowflakeConnection),
    ("account_id", quoted shown.accountId), ("account_name", quoted shown.accountName),
    ("refresh_token", quoted shown.refreshToken), ("access_token", quoted shown.accessToken),
    ("cloud_environment", shown.cloudEnvironment.describe)]

end Attributes

namespace Credential

/-- The credential without its secrets. -/
def redacted (c : Credential) : Credential :=
  { c with toAttributes := c.toAttributes.redacted }

/-- The fields of a description. -/
def descriptionFields (c : Credential) : List (String × String) :=
  ("guid", quoted c.guid) :: c.toAttributes.descriptionFields

/-- The description of a credential. -/
def describe (c : Credential) : String :=
  describeFields "Credential" c.descriptionFields

/-- The description of a credential, one field a line. -/
def describeLines (c : Credential) : String :=
  Text.describeLines "Credential" c.descriptionFields

end Credential

namespace Details

/-- A server with an API key. -/
def connect (name url apiKey : String) : Details :=
  { name, url, apiKey, serverType := .connect }

/-- A server with a token and the key that signs for it: `connect_with_token`. -/
def connectWithToken (name url token privateKey : String) : Details :=
  { name, url, token, privateKey, serverType := .connect }

/-- A server inside Snowflake, reached through a named connection. -/
def snowflake (name url connection : String) : Details :=
  { name, url, snowflakeConnection := connection, serverType := .snowflake }

/-- An account of the hosted product, `connect_cloud`; its URL is that of the deployment. -/
def connectCloud (name : String) (environment : CloudEnvironment)
    (accountId accountName refreshToken accessToken : String) : Details :=
  { name, accountId, accountName, refreshToken, accessToken, serverType := .connectCloud
    cloudEnvironment := environment }

/-- Details that recreate a credential under its identifier. -/
def preserving (c : Credential) : Details :=
  { toAttributes := c.toAttributes, guid := some c.guid }

/-- The description of details. -/
def describe (d : Details) : String :=
  describeFields "CreateCredentialDetails"
    (("guid", describeOption d.guid) :: d.toAttributes.descriptionFields)

end Details

end CredentialStore
