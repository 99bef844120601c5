import CredentialStore.Disk.IoError

/-!
# Errors of a credential store

Why an operation on stored credentials fails (`CredentialsError`), how the failure is worded, and
how a server answers it.

One kind is left out, `Serialization`, for a value that cannot be written as JSON. It does not
arise: what is written so are records, the data in them and indexes (`save_credential`,
`save_index`), which consist of texts, whole numbers and tables with texts as keys and can always be
written, and what cannot be read back is `Corrupted` or `Load`. It would be classed as `Storage` is,
with the status 500 and not as unavailable.

Main statement: `status_eq_of_isUnavailable` (a store that is unavailable is answered as one).
-/

namespace CredentialStore

/-- Why an operation on stored credentials fails: `CredentialsError`. -/
inductive CredentialError where
  | notFound (guid : String)
  | corrupted (entry : String)
  | load (reason : String)
  | nameCollision (name url : String)
  | identityCollision (name url accountName : String)
  | version (number : Nat)
  | incomplete (reason : String)
  | invalidUrl (reason : String)
  | backupFile (path reason : String)
  | unsupported (operation : String)
  | keyring (reason : String)
  | storage (reason : String)
  | migration (name : String) (source : CredentialError)
  | io (cause : IoError)
  deriving DecidableEq, Repr, Inhabited

namespace CredentialError

open Text

/-- The wording of an error. -/
def message : CredentialError → String
  | .notFound guid => "credential not found: " ++ guid
  | .corrupted entry => "credential '" ++ entry ++ "' is corrupted"
  | .load reason => "failed to load credentials: " ++ reason
  | .nameCollision name url =>
    "Name value conflicts with existing credential (" ++ name ++ ") URL: " ++ url
  | .identityCollision name url accountName =>
    "URL value conflicts with existing credential (" ++ name ++ ") URL: " ++ url ++
      if accountName = "" then "" else " account: " ++ accountName
  | .version number => "credential version not supported: " ++ decimal number
  | .incomplete reason => "incomplete credential: " ++ reason
  | .invalidUrl reason => "invalid server URL: " ++ reason
  | .backupFile path reason => "failed to back up credentials to " ++ path ++ ": " ++ reason
  | .unsupported operation => operation ++ " not supported in legacy format"
  | .keyring reason => "keyring error: " ++ reason
  | .storage reason => "storage error: " ++ reason
  | .migration name source =>
    "failed to migrate credential " ++ quoted name ++ ": " ++ source.message
  | .io cause => "IO error: " ++ cause.message

/-- The description of an error for a developer. -/
def describe : CredentialError → String
  | .notFound guid => describeFields "NotFound" [("guid", quoted guid)]
  | .corrupted entry => describeFields "Corrupted" [("entry", quoted entry)]
  | .load reason => describeWrapped "Load" (quoted reason)
  | .nameCollision name url =>
    describeFields "NameCollision" [("name", quoted name), ("url", quoted url)]
  | .identityCollision name url accountName =>
    describeFields "IdentityCollision"
      [("name", quoted name), ("url", quoted url), ("account_name", quoted accountName)]
  | .version number => describeFields "Version" [("version", decimal number)]
  | .incomplete reason => describeWrapped "IncompleteCredential" (quoted reason)
  | .invalidUrl reason => describeWrapped "InvalidUrl" (quoted reason)
  | .backupFile path reason =>
    describeFields "BackupFile" [("path", quoted path), ("reason", quoted reason)]
  | .unsupported operation => describeWrapped "Unsupported" (quoted operation)
  | .keyring reason => describeWrapped "Keyring" (quoted reason)
  | .storage reason => describeWrapped "Storage" (quoted reason)
  | .migration name source =>
    describeFields "Migration" [("name", quoted name), ("source", source.describe)]
  | .io cause => describeWrapped "Io" cause.describe

/-- The status with which a server answers a request that met the error: `status_code`. -/
def status : CredentialError → Nat
  | .notFound _ => 404
  | .nameCollision _ _ | .identityCollision _ _ _ => 409
  | .load _ | .corrupted _ => 503
  | .incomplete _ | .invalidUrl _ => 400
  | .migration _ source => source.status
  | _ => 500

/-- Whether the stored data itself is broken, so that only a reset helps:
`is_store_unavailable`. -/
def isUnavailable : CredentialError → Bool
  | .load _ | .corrupted _ => true
  | _ => false

/-- A store that is unavailable is answered as one. -/
theorem status_eq_of_isUnavailable {e : CredentialError} (h : e.isUnavailable = true) :
    e.status = 503 := by
  cases e <;> first | rfl | simp [isUnavailable] at h

end CredentialError

end CredentialStore
