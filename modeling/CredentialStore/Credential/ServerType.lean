import CredentialStore.Text.Basic
import CredentialStore.Url.Reader

/-!
# Kinds of servers

The product that a credential signs in to, and the deployment of the hosted one. A server without a
recorded kind is recognised by its host.
-/

namespace CredentialStore

open Text

/-- The product that a credential signs in to. -/
inductive ServerType where
  | connect
  | connectCloud
  | snowflake
  deriving DecidableEq, Repr, Inhabited

/-- A deployment of the hosted product. -/
inductive CloudEnvironment where
  | production
  | staging
  | development
  deriving DecidableEq, Repr, Inhabited

/-- A text that names nothing known, in small letters. -/
inductive UnknownName where
  | serverType (text : String)
  | cloudEnvironment (text : String)
  deriving DecidableEq, Repr

/-- The wording for a text that names nothing known. -/
def UnknownName.message : UnknownName → String
  | .serverType text => "unknown server type: " ++ text
  | .cloudEnvironment text => "unknown cloud environment: " ++ text

namespace ServerType

/-- The stored form: `as_str`. -/
def text : ServerType → String
  | .connect => "connect"
  | .connectCloud => "connect_cloud"
  | .snowflake => "snowflake"

/-- The form in a description. -/
def describe : ServerType → String
  | .connect => "Connect"
  | .connectCloud => "ConnectCloud"
  | .snowflake => "Snowflake"

/-- Reads the stored form. -/
def ofText? (s : String) : Option ServerType :=
  [connect, connectCloud, snowflake].find? (·.text == s)

/-- Reads a name that a person writes, `from_str`: in any letter case, and with a hyphen for the
underscore. -/
def read (s : String) : Except UnknownName ServerType :=
  let lower := lowerAscii s
  if lower = "connect-cloud" then .ok connectCloud
  else match ofText? lower with
    | some t => .ok t
    | none => .error (.serverType lower)

/-- Whether it is the hosted product: `is_cloud`. -/
def isCloud (t : ServerType) : Bool :=
  t == connectCloud

/-- The kind of server at a host. -/
def ofHost (host : List Char) : ServerType :=
  let host := host.map Char.toLower
  if host = "connect.posit.cloud".toList ∨ ".connect.posit.cloud".toList <:+ host then connectCloud
  else if ".snowflakecomputing.app".toList <:+ host then snowflake
  else connect

/-- The kind of server at a URL, `from_url`; a text that is no URL or has no host is taken for the
product that runs anywhere. -/
def ofUrl (url : String) : ServerType :=
  match Url.read url with
  | .ok u => ofHost ((u.host.map Host.text).getD [])
  | .error _ => connect

theorem ofText?_text (t : ServerType) : ofText? t.text = some t := by
  cases t <;> decide

end ServerType

namespace CloudEnvironment

/-- The stored form: `as_str`. -/
def text : CloudEnvironment → String
  | .production => "production"
  | .staging => "staging"
  | .development => "development"

/-- The form in a description. -/
def describe : CloudEnvironment → String
  | .production => "Production"
  | .staging => "Staging"
  | .development => "Development"

/-- The URL at which a deployment is reached: `frontend_url`. -/
def frontendUrl : CloudEnvironment → String
  | .production => "https://connect.posit.cloud"
  | .staging => "https://staging.connect.posit.cloud"
  | .development => "https://dev.connect.posit.cloud"

/-- Reads the stored form. -/
def ofText? (s : String) : Option CloudEnvironment :=
  [production, staging, development].find? (·.text == s)

/-- Reads a name that a person writes, `from_str`: in any letter case, and with the common short
forms. -/
def read (s : String) : Except UnknownName CloudEnvironment :=
  let lower := lowerAscii s
  if lower = "prod" then .ok production
  else if lower = "dev" then .ok development
  else match ofText? lower with
    | some e => .ok e
    | none => .error (.cloudEnvironment lower)

theorem ofText?_text (e : CloudEnvironment) : ofText? e.text = some e := by
  cases e <;> decide

end CloudEnvironment

end CredentialStore
