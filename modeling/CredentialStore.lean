import CredentialStore.Main
import CredentialStore.Proofs.Text.Digits
import CredentialStore.Proofs.Json.RoundTrip
import CredentialStore.Proofs.KeyringStore.Codec
import CredentialStore.Proofs.Toml.Text
import CredentialStore.Proofs.Toml.Statements
import CredentialStore.Proofs.FileStore.Codec
import CredentialStore.Proofs.Text.Characters
import CredentialStore.Proofs.Url.Domain
import CredentialStore.Proofs.Url.Address
import CredentialStore.Proofs.Url.Host
import CredentialStore.Proofs.Url.Server
import CredentialStore.Proofs.Url.NormalForm
import CredentialStore.Proofs.Credential.Recognition
import CredentialStore.Proofs.Op
import CredentialStore.Proofs.Op.Respects
import CredentialStore.Proofs.Op.Corresponds
import CredentialStore.Proofs.Credential.WellFormed
import CredentialStore.Proofs.Guid
import CredentialStore.Proofs.FileStore.Save
import CredentialStore.Proofs.FileStore.Documents
import CredentialStore.Proofs.Service.Ledger
import CredentialStore.Proofs.FileStore.Operations
import CredentialStore.Proofs.FileStore.Edits
import CredentialStore.Proofs.Disk.Writes
import CredentialStore.Proofs.Disk.Neighbours
import CredentialStore.Proofs.Disk.Matching
import CredentialStore.Proofs.Credential.Secrets
import CredentialStore.Proofs.FileStore.Recovery
import CredentialStore.Proofs.SecretStore.Calls
import CredentialStore.Proofs.SecretStore.Faults
import CredentialStore.Proofs.KeyringStore.Keys
import CredentialStore.Proofs.KeyringStore.Turns
import CredentialStore.Proofs.KeyringStore.Reachable
import CredentialStore.Proofs.KeyringStore.Writes
import CredentialStore.Proofs.KeyringStore.Holds
import CredentialStore.Proofs.KeyringStore.Operations
import CredentialStore.Proofs.KeyringStore.Reset
import CredentialStore.Proofs.Service.Agreement
import CredentialStore.Proofs.KeyringStore.Legacy
import CredentialStore.Proofs.Migration.Cases
import CredentialStore.Proofs.Migration.Invariant
import CredentialStore.Proofs.Migration.Preference
import CredentialStore.Proofs.KeyringStore.Carries
import CredentialStore.Proofs.Migration.Carries
import CredentialStore.Proofs.Migration.Retries
import CredentialStore.Proofs.KeyringStore.Alike
import CredentialStore.Proofs.KeyringStore.Listing
import CredentialStore.Proofs.KeyringStore.Recovery
import CredentialStore.Proofs.KeyringStore.Atomic
import CredentialStore.Proofs.KeyringStore.Coherent
import CredentialStore.Proofs.KeyringStore.Twins
import CredentialStore.Proofs.Migration.Outcome
import CredentialStore.Proofs.Site.Reset
import CredentialStore.Proofs.Migration.Within
import CredentialStore.Proofs.Site.Opening
import CredentialStore.Proofs.Site.History
import CredentialStore.Proofs.Site.Settling
import CredentialStore.Proofs.FileStore.AllOrNothing
import CredentialStore.Proofs.FileStore.Secrets
import CredentialStore.Proofs.FileStore.Secrecy
import CredentialStore.Proofs.CommandLine.Secrecy
import CredentialStore.Proofs.Disk.Directories
import CredentialStore.Proofs.Disk.Replacing
import CredentialStore.Proofs.FileStore.Calls
import CredentialStore.Proofs.FileStore.Spares
import CredentialStore.Proofs.FileStore.Permissions
import CredentialStore.Proofs.Credential.Validation
import CredentialStore.Proofs.FileStore.Entries
import CredentialStore.Proofs.KeyringStore.Records
import CredentialStore.Proofs.KeyringStore.Identity
import CredentialStore.Proofs.FileStore.Backups
import CredentialStore.Proofs.KeyringStore.Shapes
import CredentialStore.Proofs.FileStore.Newer
import CredentialStore.Proofs.KeyringStore.Newer
import CredentialStore.Proofs.Migration.Newer
import CredentialStore.Proofs.Migration.Reruns
import CredentialStore.Proofs.KeyringStore.Footprint
import CredentialStore.Proofs.Url.Roots
import CredentialStore.Proofs.Url.Discovery
import CredentialStore.Proofs.Op.Silent
import CredentialStore.Proofs.Service.Overrides
import CredentialStore.Proofs.Error
import CredentialStore.Proofs.KeyringStore.Failures
import CredentialStore.Proofs.Migration.Unavailable
