import CredentialStore.Credential.Basic
import CredentialStore.Error
import CredentialStore.Warning

/-!
# Conflicts

No two stored credentials have one name, and no two sign in to one server with one account. A
candidate is held against every stored credential; a forced write reports the rules that it passes
over instead. Main statement: `checkAll_eq_ok_iff`.
-/

namespace CredentialStore

namespace Credential

/-- Whether two credentials sign in to one server with one account: `same_identity`. -/
def sameIdentity (c d : Credential) : Bool :=
  c.url == d.url && c.accountName == d.accountName

/-- Why a candidate cannot stand beside a stored credential: `conflict_check`. -/
def conflict? (stored candidate : Credential) : Option CredentialError :=
  if stored.name = candidate.name then some (.nameCollision stored.name stored.url)
  else if stored.sameIdentity candidate then
    some (.identityCollision stored.name stored.url stored.accountName)
  else none

/-- Holds a candidate against every stored credential, `check_for_conflicts`; the first conflict
counts. -/
def checkAll (stored : List Credential) (candidate : Credential) : Except CredentialError Unit :=
  match stored.findSome? (·.conflict? candidate) with
  | some e => .error e
  | none => .ok ()

/-- The rule that a forced write of a candidate passes over at a stored credential. Taking the place
of a credential of the same name is what it is for, and is reported only if the server changes. -/
def overridden? (backend : String) (candidate stored : Credential) : Option Warning :=
  if stored.name = candidate.name then
    if stored.sameIdentity candidate then none
    else some (.replacedIdentity backend stored.guid stored.name stored.url candidate.url)
  else if stored.sameIdentity candidate then
    some (.sharedIdentity backend candidate.name stored.name candidate.url)
  else none

/-- The rules that a forced write of a candidate passes over: `audit_override`. -/
def overridden (backend : String) (stored : List Credential) (candidate : Credential) :
    List Warning :=
  stored.filterMap (overridden? backend candidate)

theorem conflict?_eq_none_iff {c candidate : Credential} :
    c.conflict? candidate = none ↔ c.name ≠ candidate.name ∧ c.sameIdentity candidate = false := by
  unfold conflict?
  by_cases hname : c.name = candidate.name
  · rw [if_pos hname]
    exact ⟨nofun, fun h => absurd hname h.1⟩
  · rw [if_neg hname]
    cases c.sameIdentity candidate with
    | true => exact ⟨nofun, fun h => nomatch h.2⟩
    | false => exact ⟨fun _ => ⟨hname, rfl⟩, fun _ => rfl⟩

/-- What a candidate is refused for, it has in common with a stored credential. -/
theorem checkAll_error_cases {stored : List Credential} {candidate : Credential}
    {e : CredentialError} (h : checkAll stored candidate = .error e) :
    ∃ c ∈ stored, e = .nameCollision c.name c.url ∨
      e = .identityCollision c.name c.url c.accountName := by
  unfold checkAll at h
  split at h
  · rename_i found hfound
    cases h
    obtain ⟨c, hc, hconflict⟩ := List.exists_of_findSome?_eq_some hfound
    refine ⟨c, hc, ?_⟩
    -- the name is looked at before the identity
    unfold conflict? at hconflict
    split at hconflict
    · exact .inl (Option.some.inj hconflict).symm
    · split at hconflict
      · exact .inr (Option.some.inj hconflict).symm
      · cases hconflict
  · cases h

theorem checkAll_eq_ok_iff {stored : List Credential} {candidate : Credential} :
    checkAll stored candidate = .ok () ↔
      ∀ c ∈ stored, c.name ≠ candidate.name ∧ c.sameIdentity candidate = false := by
  have hnone : stored.findSome? (·.conflict? candidate) = none ↔
      ∀ c ∈ stored, c.name ≠ candidate.name ∧ c.sameIdentity candidate = false := by
    simp only [List.findSome?_eq_none_iff, conflict?_eq_none_iff]
  rw [← hnone]
  unfold checkAll
  cases stored.findSome? (·.conflict? candidate) with
  | none => exact ⟨fun _ => rfl, fun _ => rfl⟩
  | some e => exact ⟨nofun, nofun⟩

end Credential

end CredentialStore
