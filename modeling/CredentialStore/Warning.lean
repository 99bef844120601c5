import CredentialStore.Error

/-!
# Warnings

What a store reports besides its answers: rules that a forced write passes over, resets, and
failures that an operation gets over. These are the reports at the levels of warnings and errors;
what is logged only to follow an operation (at the levels below) is left out, since nothing depends
on it.
-/

namespace CredentialStore

/-- What a store reports besides its answers. -/
inductive Warning where
  | replacedIdentity (backend guid name previousUrl url : String)
  | sharedIdentity (backend name conflicting url : String)
  | missingEntry (guid : String)
  | keyringReset (removed : Nat)
  | fileReset
  | backedUp (path : String)
  | backupFailed (cause : CredentialError)
  | enumerationFailed (cause : CredentialError)
  | rollbackFailed (guid : String) (cause : CredentialError)
  | restoreFailed (guid : String) (cause : CredentialError)
  | credentialNotMigrated (name : String) (cause : CredentialError)
  | migratedButNotRemoved (cause : CredentialError)
  | legacyNotRemoved (cause : CredentialError)
  | migrationFailed (cause : CredentialError)
  deriving DecidableEq, Repr

namespace Warning

/-- A detail of a report. -/
inductive Detail where
  | text (s : String)
  | count (n : Nat)
  deriving DecidableEq, Repr

/-- Whether a report tells of an error and not only of something to know. -/
def isError : Warning → Bool
  | .migrationFailed _ => true
  | _ => false

/-- The wording of a report. -/
def message : Warning → String
  | .replacedIdentity .. => "Forced credential write replaced server identity"
  | .sharedIdentity .. =>
    "Forced credential write shares its server identity with another credential"
  | .missingEntry _ => "Credential index refers to a missing entry"
  | .keyringReset _ | .fileReset => "Stored credentials were reset"
  | .backedUp _ => "Previous credentials file backed up"
  | .backupFailed e => "Could not back up credentials file before reset: " ++ e.message
  | .enumerationFailed e =>
    "Could not enumerate stored credentials during reset: " ++ e.message
  | .rollbackFailed _ e => "Could not roll back credential entry: " ++ e.message
  | .restoreFailed _ e => "Could not restore credential entry: " ++ e.message
  | .credentialNotMigrated _ e => "Failed to migrate credential: " ++ e.message
  | .migratedButNotRemoved e =>
    "Could not remove legacy credentials after migration: " ++ e.message
  | .legacyNotRemoved e => "Could not remove legacy keyring credentials: " ++ e.message
  | .migrationFailed e => "Legacy credential migration failed: " ++ e.message

/-- The details of a report by name. -/
def details : Warning → List (String × Detail)
  | .replacedIdentity backend guid name previousUrl url =>
    [("backend", .text backend), ("guid", .text guid), ("name", .text name),
      ("previous_url", .text previousUrl), ("url", .text url)]
  | .sharedIdentity backend name conflicting url =>
    [("backend", .text backend), ("name", .text name), ("conflicting", .text conflicting),
      ("url", .text url)]
  | .missingEntry guid | .rollbackFailed guid _ | .restoreFailed guid _ =>
    [("credential", .text guid)]
  | .keyringReset removed => [("credentials_service", .text "keyring"), ("removed", .count removed)]
  | .fileReset => [("credentials_service", .text "file")]
  | .backedUp path => [("credentials_backup", .text path)]
  | .credentialNotMigrated name _ => [("name", .text name)]
  | _ => []

end Warning

end CredentialStore
