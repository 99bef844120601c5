import CredentialStore.Error
import CredentialStore.Json.Reader
import CredentialStore.Json.Structure
import CredentialStore.Json.Writer
import CredentialStore.Text.Basic

/-!
# Configuration

Where credentials are kept (`CredentialsConfig`): which backend, in which file, and under which name
in the system keyring. The home directory is always known.
-/

namespace CredentialStore

open Text

/-- Which backend is opened. -/
inductive BackendKind where
  /-- The system keyring where it works, and a file otherwise. -/
  | auto
  | keyring
  | file
  deriving DecidableEq, Repr, Inhabited

namespace BackendKind

/-- The written form. -/
def text : BackendKind → String
  | .auto => "auto"
  | .keyring => "keyring"
  | .file => "file"

/-- Reads the written form. -/
def ofText? (s : String) : Option BackendKind :=
  [auto, keyring, file].find? (·.text == s)

/-- Reads a name that a person writes: in any letter case, with blanks around it, and no name for
the usual choice. -/
def read (s : String) : Except CredentialError BackendKind :=
  let lower := lowerAscii (trim s)
  if lower = "" then .ok auto
  else if lower = "keychain" then .ok keyring
  else match ofText? lower with
    | some k => .ok k
    | none => .error (.storage ("unknown credentials backend '" ++ lower ++ "'"))

end BackendKind

/-- The name under which the system keyring keeps credentials. -/
def defaultServiceName : String :=
  "Posit Publisher Safe Storage"

/-- The name of the credentials file in the home directory. -/
def credentialsFileName : String :=
  ".connect-credentials"

/-- Where credentials are kept. -/
structure Config where
  backend : BackendKind := .auto
  /-- The credentials file, if it is not the one in the home directory. -/
  filePath : Option String := none
  serviceName : String := defaultServiceName
  deriving DecidableEq, Repr, Inhabited

namespace Config

/-- The variable that chooses the backend: `BACKEND_ENV`. -/
def backendVariable : String :=
  "PUBLISHER_CREDENTIALS_BACKEND"

/-- The variable that chooses the credentials file: `FILE_ENV`. -/
def fileVariable : String :=
  "PUBLISHER_CREDENTIALS_FILE"

/-- The configuration that variables choose: `from_env`. A blank file name chooses nothing. -/
def ofVariables (lookup : String → Option String) : Except CredentialError Config := do
  let backend ← match lookup backendVariable with
    | some text => BackendKind.read text
    | none => pure .auto
  let filePath := (lookup fileVariable).filter (!isBlankText ·)
  return { backend, filePath }

/-- The path of the credentials file, given the home directory: `credentials_file`. -/
def credentialsFile (config : Config) (home : String) : String :=
  match config.filePath with
  | some path => path
  | none => if home.endsWith "/" then home ++ credentialsFileName
    else home ++ "/" ++ credentialsFileName

/-- The written form. -/
def toJson (config : Config) : Json :=
  .object [("backend", .string config.backend.text),
    ("filePath", match config.filePath with
      | some path => .string path
      | none => .null),
    ("serviceName", .string config.serviceName)]

/-- Reads the written form; only the file may be left out. -/
def ofJson? (j : Json) : Option Config := do
  let fields ← j.fields? ["backend", "filePath", "serviceName"]
  let backend ← (Json.field? fields "backend").bind fun b => b.choice?.bind BackendKind.ofText?
  let filePath ← match Json.field? fields "filePath" with
    | none | some .null => some none
    | some path => path.string?.map some
  let serviceName ← (Json.field? fields "serviceName").bind Json.string?
  return { backend, filePath, serviceName }

end Config

end CredentialStore
