import CredentialStore.Credential.Validation
import CredentialStore.Proofs.Url.Server

/-!
# Well-formed credentials

What holds of every credential that validation lets through. Main statement:
`Details.isWellFormed_of_toCredential`.
-/

namespace CredentialStore

open Text

/-- The fields of exactly one way to sign in to the kind of server are filled in, all of them, and
no others. -/
def Attributes.HasOneSignIn (a : Attributes) : Prop :=
  match a.serverType with
  | .connect =>
    ((a.apiKey ≠ "" ∧ a.token = "" ∧ a.privateKey = "") ∨
      (a.apiKey = "" ∧ a.token ≠ "" ∧ a.privateKey ≠ "")) ∧
    a.snowflakeConnection = "" ∧ a.accountId = "" ∧ a.accountName = "" ∧ a.refreshToken = "" ∧
    a.accessToken = "" ∧ a.cloudEnvironment = .production
  | .snowflake =>
    a.snowflakeConnection ≠ "" ∧ a.apiKey = "" ∧ a.token = "" ∧ a.privateKey = "" ∧
    a.accountId = "" ∧ a.accountName = "" ∧ a.refreshToken = "" ∧ a.accessToken = "" ∧
    a.cloudEnvironment = .production
  | .connectCloud =>
    a.accountId ≠ "" ∧ a.accountName ≠ "" ∧ a.refreshToken ≠ "" ∧ a.accessToken ≠ "" ∧
    a.apiKey = "" ∧ a.token = "" ∧ a.privateKey = "" ∧ a.snowflakeConnection = ""

/-- A credential as validation lets it through. -/
structure Credential.IsWellFormed (c : Credential) : Prop where
  name_not_blank : isBlankText c.name = false
  guid_ne_empty : c.guid ≠ ""
  normalize_url : ServerUrl.normalize c.url = .ok c.url
  hasOneSignIn : c.HasOneSignIn

/-- Only the hosted product has a deployment. -/
theorem Attributes.HasOneSignIn.cloudEnvironment_eq {a : Attributes} (h : a.HasOneSignIn)
    (hcloud : a.serverType.isCloud = false) : a.cloudEnvironment = .production := by
  unfold HasOneSignIn at h
  cases htype : a.serverType with
  | connect =>
    rw [htype] at h
    exact h.2.2.2.2.2.2
  | snowflake =>
    rw [htype] at h
    exact h.2.2.2.2.2.2.2.2
  | connectCloud =>
    rw [htype] at hcloud
    cases hcloud

/-- What a file or a record tells of a credential is that credential again: its URL is in its normal
form already, and only the hosted product has a deployment. -/
structure Credential.ReadsBack (c : Credential) : Prop where
  normalize_url : ServerUrl.normalize c.url = .ok c.url
  cloudEnvironment_eq : c.serverType.isCloud = false → c.cloudEnvironment = .production

namespace Credential

variable {c : Credential}

theorem ReadsBack.with_guid (h : c.ReadsBack) (guid : String) :
    ({ c with guid } : Credential).ReadsBack :=
  ⟨h.normalize_url, h.cloudEnvironment_eq⟩

theorem IsWellFormed.with_guid (h : c.IsWellFormed) {guid : String} (hguid : guid ≠ "") :
    ({ c with guid } : Credential).IsWellFormed :=
  ⟨h.name_not_blank, hguid, h.normalize_url, h.hasOneSignIn⟩

theorem IsWellFormed.readsBack (h : c.IsWellFormed) : c.ReadsBack :=
  ⟨h.normalize_url, h.hasOneSignIn.cloudEnvironment_eq⟩

end Credential

namespace Details

variable {d : Details} {fresh : String} {c : Credential}

theorem hasOneSignIn_of_signIn {a : Attributes} (h : d.signIn = .ok a) : a.HasOneSignIn := by
  unfold signIn at h
  split at h
  · dsimp only at h
    split at h
    · cases h
    · split at h
      · -- with a key, no token is taken along
        rename_i hkey
        cases h
        simp only [bne_iff_ne] at hkey
        exact ⟨.inl ⟨hkey, rfl, rfl⟩, rfl, rfl, rfl, rfl, rfl, rfl⟩
      · split at h
        · cases h
        · split at h
          · cases h
          · rename_i htoken
            cases h
            exact ⟨.inr ⟨rfl, not_or.1 htoken⟩, rfl, rfl, rfl, rfl, rfl, rfl⟩
  · split at h
    · cases h
    · rename_i hconnection
      cases h
      exact ⟨hconnection, rfl, rfl, rfl, rfl, rfl, rfl, rfl, rfl⟩
  · dsimp only at h
    split at h
    · -- no field is missing, so each one is filled in
      rename_i hmissing
      cases h
      simp only [missingCloudFields, List.isEmpty_iff, List.map_eq_nil_iff, List.filter_eq_nil_iff,
        List.mem_cons, List.not_mem_nil, or_false, forall_eq_or_imp, forall_eq, beq_iff_eq]
        at hmissing
      obtain ⟨hid, hname, hrefresh, haccess⟩ := hmissing
      exact ⟨hid, hname, hrefresh, haccess, rfl, rfl, rfl, rfl⟩
    · cases h

/-- What validation lets through. -/
theorem toCredential_cases (h : d.toCredential fresh = .ok c) :
    isBlankText d.name = false ∧ ∃ (url : String) (a : Attributes),
      ServerUrl.normalize d.effectiveUrl = .ok url ∧ d.signIn = .ok a ∧
      c = { a with name := d.name, url, guid := d.effectiveGuid fresh } := by
  unfold toCredential at h
  split at h
  · cases h
  · rename_i hname
    dsimp only at h
    split at h
    · cases h
    · split at h
      · cases h
      · rename_i url hurl
        split at h
        · cases h
        · rename_i a ha
          cases h
          exact ⟨by simpa using hname, url, a, hurl, ha, rfl⟩

theorem isWellFormed_of_toCredential (h : d.toCredential fresh = .ok c)
    (hguid : d.effectiveGuid fresh ≠ "") : c.IsWellFormed := by
  obtain ⟨hname, url, a, hurl, ha, rfl⟩ := toCredential_cases h
  have hsign : a.HasOneSignIn := hasOneSignIn_of_signIn ha
  -- the URL that is kept is a normal form, so its own
  exact ⟨hname, hguid, ServerUrl.normalize_idem hurl, hsign⟩

/-- Details that carry an identifier do not need a fresh one. -/
theorem toCredential_preserving {c : Credential} (h : c.guid ≠ "") (fresh fresh' : String) :
    (preserving c).toCredential fresh = (preserving c).toCredential fresh' := by
  have hguid : ∀ fresh, (preserving c).effectiveGuid fresh = c.guid := fun _ => if_neg h
  simp only [toCredential, hguid]

theorem guid_of_preserving {c d : Credential} (h : c.guid ≠ "") {fresh : String}
    (hd : (preserving c).toCredential fresh = .ok d) : d.guid = c.guid :=
  (toCredential_guid hd).trans (if_neg h)

theorem readsBack_of_toCredential (h : d.toCredential fresh = .ok c) : c.ReadsBack := by
  obtain ⟨-, url, a, hurl, ha, rfl⟩ := toCredential_cases h
  have hsign : a.HasOneSignIn := hasOneSignIn_of_signIn ha
  exact ⟨ServerUrl.normalize_idem hurl, hsign.cloudEnvironment_eq⟩

theorem effectiveGuid_ne_empty (d : Details) (h : fresh ≠ "") : d.effectiveGuid fresh ≠ "" := by
  rw [effectiveGuid]
  split
  · split
    · exact h
    · assumption
  · exact h

end Details

end CredentialStore
