import CredentialStore.Service

/-!
# Migration

A migration (`migrate`) copies all credentials of one service into another under their identifiers
and then removes the first. Credentials that are there already are passed over, so that an
interrupted migration can be run again.
-/

namespace CredentialStore

/-- The identifiers that were copied and the ones that were there already. -/
structure MigrationReport where
  migrated : List String := []
  skipped : List String := []
  deriving DecidableEq, Repr

namespace Migration

variable {σ : Type}

/-- Copies one credential. -/
def copy (target : Service σ) (fresh : String) (c : Credential) : Op σ Unit := do
  match ← Op.attempt (target.set fresh (Details.preserving c)) with
  | .ok _ => return
  | .error e =>
    Op.warn (.credentialNotMigrated c.name e)
    throw (.migration c.name e)

/-- Copies the credentials of a list that are not present. `fresh` gives the identifier for a
credential without one, by its place in the list. -/
def copyAll (target : Service σ) (fresh : Nat → String) (present : List String) :
    Nat → List Credential → MigrationReport → Op σ MigrationReport
  | _, [], report => return report
  | i, c :: rest, report => do
    if present.contains c.guid then
      copyAll target fresh present (i + 1) rest
        { report with skipped := report.skipped ++ [c.guid] }
    else
      copy target (fresh i) c
      copyAll target fresh present (i + 1) rest
        { report with migrated := report.migrated ++ [c.guid] }

/-- Copies all credentials of the first service into the second and removes the first: `migrate`. -/
def run (source target : Service σ) (fresh : Nat → String) : Op σ MigrationReport := do
  let credentials ← source.list
  let present := (← target.list).map (·.guid)
  let report ← copyAll target fresh present 0 credentials {}
  match ← Op.attempt source.reset with
  | .ok _ => return report
  | .error e =>
    Op.warn (.migratedButNotRemoved e)
    return report

end Migration

end CredentialStore
