import CredentialStore.Error

/-!
# What is behind an error

A migration that cannot store a credential passes on why, and the service that it writes to may
itself be one that passes errors on, so that an error can lie behind any number of migrations. Two
things are told of an error: the status of the answer (`status_code`), and whether what is stored is
broken (`is_store_unavailable`). The first looks through all migrations; the second looks at the
outermost error only.

Main statements:

* `CredentialError.status_eq_iff` — the status of an unavailable store is that of an error behind
  which, however deep, the store is unavailable;
* `CredentialError.isClassedAlike_iff` — both agree exactly if no migration hides such an error.
-/

namespace CredentialStore.CredentialError

/-- Whether an error is that of a migration. -/
def isMigration : CredentialError → Bool
  | .migration _ _ => true
  | _ => false

/-- The error behind all migrations. -/
def cause : CredentialError → CredentialError
  | .migration _ source => source.cause
  | e => e

/-- Whether an error is told to be one of an unavailable store exactly if it is answered as one. -/
def IsClassedAlike (e : CredentialError) : Prop :=
  e.isUnavailable = true ↔ e.status = 503

instance (e : CredentialError) : Decidable e.IsClassedAlike :=
  inferInstanceAs (Decidable (_ ↔ _))

variable {e : CredentialError}

theorem isMigration_cause (e : CredentialError) : e.cause.isMigration = false := by
  induction e with
  | migration name source ih => exact ih
  | _ => rfl

theorem cause_eq_self (h : e.isMigration = false) : e.cause = e := by
  cases e with
  | migration name source => cases h
  | _ => rfl

/-- An error is answered as the one behind it. -/
theorem status_cause (e : CredentialError) : e.cause.status = e.status := by
  induction e with
  | migration name source ih => exact ih
  | _ => rfl

theorem isUnavailable_eq_false_of_isMigration (h : e.isMigration = true) :
    e.isUnavailable = false := by
  cases e with
  | migration name source => rfl
  | _ => cases h

/-- The two agree on an error that no migration is around. -/
theorem isClassedAlike_of_not_isMigration (h : e.isMigration = false) : e.IsClassedAlike := by
  refine ⟨status_eq_of_isUnavailable, fun hstatus => ?_⟩
  cases e with
  | migration name source => cases h
  | load reason => rfl
  | corrupted entry => rfl
  | _ => cases hstatus

/-- The status of an unavailable store is answered exactly if the store is unavailable behind all
migrations. -/
theorem status_eq_iff (e : CredentialError) : e.status = 503 ↔ e.cause.isUnavailable = true := by
  rw [← status_cause]
  exact (isClassedAlike_of_not_isMigration (isMigration_cause e)).symm

/-- The two disagree exactly on a migration behind which the store is unavailable. -/
theorem isClassedAlike_iff (e : CredentialError) :
    e.IsClassedAlike ↔ ¬ (e.isMigration = true ∧ e.cause.isUnavailable = true) := by
  cases hmigration : e.isMigration with
  | false =>
    refine ⟨fun _ h => ?_, fun _ => isClassedAlike_of_not_isMigration hmigration⟩
    cases h.1
  | true =>
    -- a migration is not told to be unavailable, so it must not be answered as one
    rw [IsClassedAlike, status_eq_iff, isUnavailable_eq_false_of_isMigration hmigration]
    constructor
    · intro halike h
      cases halike.2 h.2
    · intro hnone
      exact ⟨nofun, fun hcause => absurd ⟨rfl, hcause⟩ hnone⟩

/-- Two migrations deep, the store is still answered as unavailable. -/
example : (migration "outer" (migration "inner" (load "denied"))).status = 503 ∧
    ¬ (migration "outer" (migration "inner" (load "denied"))).IsClassedAlike := by
  decide

end CredentialStore.CredentialError
