import CredentialStore.Proofs.Credential.WellFormed
import CredentialStore.Proofs.Guid
import CredentialStore.Proofs.Service.Run

/-!
# What validation lets through

Details stand for a credential (`to_credential`) exactly if they have a name, name a server, and
fill in the fields of exactly one way to sign in to that kind of server. What is let through has
these fields and no others, so validating it again changes nothing: the well-formed credentials are
the ones that validation leaves as they are.

Main statements:

* `signIn_eq_ok_iff` — when the fields of the details are complete, and what is kept of them;
* `toCredential_eq_ok_iff` — when the details stand for a credential, and for which one;
* `isWellFormed_iff` — the credentials that are left as they are;
* `toCredential_exact` — when validation succeeds, how it fails, what it answers, and that its
  answers are left as they are.
-/

namespace CredentialStore

open Text

namespace Attributes

/-- The fields that the kind of server asks for are filled in, for one way to sign in and not for
two. -/
def IsComplete (a : Attributes) : Prop :=
  match a.serverType with
  | .connect =>
    (a.apiKey ≠ "" ∧ a.token = "" ∧ a.privateKey = "") ∨
      (a.apiKey = "" ∧ a.token ≠ "" ∧ a.privateKey ≠ "")
  | .snowflake => a.snowflakeConnection ≠ ""
  | .connectCloud =>
    a.accountId ≠ "" ∧ a.accountName ≠ "" ∧ a.refreshToken ≠ "" ∧ a.accessToken ≠ ""

/-- The name, the URL and the fields for the kind of server, and nothing in the others. -/
def ownFields (a : Attributes) : Attributes :=
  match a.serverType with
  | .connect =>
    { name := a.name, url := a.url, serverType := .connect
      apiKey := a.apiKey, token := a.token, privateKey := a.privateKey }
  | .snowflake =>
    { name := a.name, url := a.url, serverType := .snowflake
      snowflakeConnection := a.snowflakeConnection }
  | .connectCloud =>
    { name := a.name, url := a.url, serverType := .connectCloud
      accountId := a.accountId, accountName := a.accountName
      refreshToken := a.refreshToken, accessToken := a.accessToken
      cloudEnvironment := a.cloudEnvironment }

@[simp] theorem name_ownFields (a : Attributes) : a.ownFields.name = a.name := by
  unfold ownFields
  split <;> rfl

/-- Exactly one way to sign in is filled in where its fields are complete and all others empty. -/
theorem hasOneSignIn_iff {a : Attributes} :
    a.HasOneSignIn ↔ a.IsComplete ∧ a.ownFields = a := by
  obtain ⟨name, url, serverType, apiKey, token, privateKey, snowflakeConnection, accountId,
    accountName, refreshToken, accessToken, cloudEnvironment⟩ := a
  cases serverType with
  | connect =>
    simp only [HasOneSignIn, IsComplete, ownFields, Attributes.mk.injEq, true_and]
    grind
  | snowflake =>
    simp only [HasOneSignIn, IsComplete, ownFields, Attributes.mk.injEq, true_and]
    grind
  | connectCloud =>
    simp only [HasOneSignIn, IsComplete, ownFields, Attributes.mk.injEq, true_and, and_true]
    grind

end Attributes

namespace Details

variable {d : Details} {fresh : String} {c : Credential}

/-! ## Ways to sign in -/

/-- Complete fields are kept, without those of other ways to sign in. -/
theorem signIn_of_isComplete (h : d.IsComplete) :
    d.signIn = .ok { d.ownFields with name := "", url := "" } := by
  cases htype : d.serverType with
  | connect =>
    simp only [Attributes.IsComplete, htype] at h
    rcases h with ⟨hkey, htoken, hprivate⟩ | ⟨hkey, htoken, hprivate⟩
    · simp [signIn, Attributes.ownFields, htype, hkey, htoken, hprivate]
    · simp [signIn, Attributes.ownFields, htype, hkey, htoken, hprivate]
  | snowflake =>
    simp only [Attributes.IsComplete, htype] at h
    simp [signIn, Attributes.ownFields, htype, h]
  | connectCloud =>
    simp only [Attributes.IsComplete, htype] at h
    simp [signIn, Attributes.ownFields, htype, missingCloudFields, h]

/-- What is let through had complete fields. -/
theorem isComplete_of_signIn {a : Attributes} (h : d.signIn = .ok a) : d.IsComplete := by
  unfold signIn at h
  cases htype : d.serverType with
  | connect =>
    simp only [htype] at h
    simp only [Attributes.IsComplete, htype]
    grind
  | snowflake =>
    simp only [htype] at h
    simp only [Attributes.IsComplete, htype]
    grind
  | connectCloud =>
    simp only [htype] at h
    simp only [Attributes.IsComplete, htype]
    split at h
    · rename_i hmissing
      simpa [missingCloudFields] using hmissing
    · cases h

/-- What is refused lacks something. -/
theorem exists_of_signIn_error {e : CredentialError} (h : d.signIn = .error e) :
    ∃ reason, e = .incomplete reason := by
  unfold signIn at h
  -- each kind of server has errors of its own, all of them of this form
  split at h <;> grind

/-- The fields of the details are complete, and they are all that is kept. -/
theorem signIn_eq_ok_iff {a : Attributes} :
    d.signIn = .ok a ↔ d.IsComplete ∧ a = { d.ownFields with name := "", url := "" } := by
  constructor
  · intro h
    have hcomplete := isComplete_of_signIn h
    rw [signIn_of_isComplete hcomplete] at h
    exact ⟨hcomplete, (Except.ok.inj h).symm⟩
  · rintro ⟨hcomplete, rfl⟩
    exact signIn_of_isComplete hcomplete

/-! ## Validation -/

/-- Details that stand for a credential: they have a name, a URL that names a server, and complete
fields. -/
structure IsAdmissible (d : Details) : Prop where
  name_not_blank : isBlankText d.name = false
  url_not_blank : isBlankText d.effectiveUrl = false
  exists_normal : ∃ url, ServerUrl.normalize d.effectiveUrl = .ok url
  isComplete : d.IsComplete

/-- Details with a name and a URL that names no server. -/
structure IsMisdirected (d : Details) : Prop where
  name_not_blank : isBlankText d.name = false
  url_not_blank : isBlankText d.effectiveUrl = false
  normalize_ne : ∀ url, ServerUrl.normalize d.effectiveUrl ≠ .ok url

/-- The credential that details stand for at a URL. -/
def storedAt (d : Details) (url guid : String) : Credential :=
  { d.ownFields with url, guid }

theorem toCredential_of_isAdmissible (h : d.IsAdmissible) {url : String}
    (hurl : ServerUrl.normalize d.effectiveUrl = .ok url) (fresh : String) :
    d.toCredential fresh = .ok (d.storedAt url (d.effectiveGuid fresh)) := by
  rw [toCredential, h.name_not_blank]
  simp only [Bool.false_eq_true, if_false, h.url_not_blank, hurl,
    signIn_of_isComplete h.isComplete, storedAt, Attributes.name_ownFields]

/-- When details stand for a credential, and for which one. -/
theorem toCredential_eq_ok_iff :
    d.toCredential fresh = .ok c ↔
      d.IsAdmissible ∧ ∃ url, ServerUrl.normalize d.effectiveUrl = .ok url ∧
        c = d.storedAt url (d.effectiveGuid fresh) := by
  constructor
  · intro h
    obtain ⟨hname, url, a, hurl, ha, -⟩ := toCredential_cases h
    have hblank : isBlankText d.effectiveUrl = false := by
      cases hblank : isBlankText d.effectiveUrl with
      | false => rfl
      | true => simp [toCredential, hname, hblank] at h
    have hadmissible : d.IsAdmissible := ⟨hname, hblank, ⟨url, hurl⟩, (signIn_eq_ok_iff.1 ha).1⟩
    rw [toCredential_of_isAdmissible hadmissible hurl] at h
    exact ⟨hadmissible, url, hurl, (Except.ok.inj h).symm⟩
  · rintro ⟨hadmissible, url, hurl, rfl⟩
    exact toCredential_of_isAdmissible hadmissible hurl fresh

/-- Details that are refused lack something, or name no server. -/
theorem toCredential_error_cases {e : CredentialError} (h : d.toCredential fresh = .error e) :
    (¬ d.IsMisdirected ∧ ∃ reason, e = .incomplete reason) ∨
      (d.IsMisdirected ∧ ∃ fault, ServerUrl.normalize d.effectiveUrl = .error fault ∧
        e = fault.error d.effectiveUrl) := by
  rw [toCredential] at h
  -- the checks in their order: the name, whether there is a URL, the URL, the fields
  split at h
  · rename_i hname
    cases h
    exact .inl ⟨fun hd => by simp [hd.name_not_blank] at hname, _, rfl⟩
  rename_i hname
  dsimp only at h
  split at h
  · rename_i hblank
    cases h
    exact .inl ⟨fun hd => by simp [hd.url_not_blank] at hblank, _, rfl⟩
  rename_i hblank
  split at h
  · rename_i fault hfault
    cases h
    exact .inr ⟨⟨by simpa using hname, by simpa using hblank, by simp [hfault]⟩, fault, hfault, rfl⟩
  rename_i url hurl
  split at h
  · rename_i e' hsign
    cases h
    exact .inl ⟨fun hd => hd.normalize_ne url hurl, exists_of_signIn_error hsign⟩
  · cases h

theorem isPlain_of_toCredential {e : CredentialError} (h : d.toCredential fresh = .error e) :
    e.isPlain = true := by
  rcases toCredential_error_cases h with ⟨-, reason, rfl⟩ | ⟨-, fault, -, rfl⟩
  · rfl
  · rfl

/-! ## Validating again -/

/-- Details that recreate a well-formed credential carry its URL and its identifier. -/
theorem effectiveUrl_preserving (h : c.IsWellFormed) : (preserving c).effectiveUrl = c.url := by
  have hblank : isBlankText c.url = false := ServerUrl.isBlankText_of_normalize h.normalize_url
  refine if_neg fun hcloud => ?_
  have hurl : isBlankText c.url = true := hcloud.1
  rw [hblank] at hurl
  cases hurl

/-- The well-formed credentials are those that validation leaves as they are. -/
theorem isWellFormed_iff :
    c.IsWellFormed ↔ ∀ fresh, (preserving c).toCredential fresh = .ok c := by
  constructor
  · intro h fresh
    obtain ⟨hcomplete, hown⟩ := Attributes.hasOneSignIn_iff.1 h.hasOneSignIn
    have hurl := effectiveUrl_preserving h
    refine toCredential_eq_ok_iff.2 ⟨⟨h.name_not_blank, ?_, ⟨c.url, ?_⟩, hcomplete⟩, c.url, ?_, ?_⟩
    · rw [hurl]
      exact ServerUrl.isBlankText_of_normalize h.normalize_url
    · rw [hurl]
      exact h.normalize_url
    · rw [hurl]
      exact h.normalize_url
    · have hguid : (preserving c).effectiveGuid fresh = c.guid := if_neg h.guid_ne_empty
      have hown : (preserving c).ownFields = c.toAttributes := hown
      rw [storedAt, hguid, hown]
  · intro h
    exact isWellFormed_of_toCredential (h "fresh") (effectiveGuid_ne_empty _ (by decide))

/-- The credential is the one that the details stand for, with an identifier that was drawn for it.
-/
structure StandFor (d : Details) (drawn : String) (c : Credential) : Prop where
  name_eq : c.name = d.name
  normalize_url : ServerUrl.normalize d.effectiveUrl = .ok c.url
  /-- The fields of the one way to sign in are those of the details, and the others are empty. -/
  attributes_eq : c.toAttributes = { d.ownFields with url := c.url }
  guid_of_given : ∀ guid, d.guid = some guid → guid ≠ "" → c.guid = guid
  guid_of_missing : d.guid = none ∨ d.guid = some "" → c.guid = drawn
  /-- Details that recreate the credential stand for it, whatever is drawn. -/
  preserved : ∀ fresh, (preserving c).toCredential fresh = .ok c

/-- Validation succeeds exactly for the details that stand for a credential; it fails because of the
URL exactly where a name and a URL are there and the URL names no server, and because something is
lacking otherwise; and its answers are left as they are when they are validated again. -/
theorem toCredential_exact (d : Details) (random : List UInt8) :
    ((∃ c, d.toCredential (Guid.ofRandom random) = .ok c) ↔ d.IsAdmissible) ∧
    (∀ e, d.toCredential (Guid.ofRandom random) = .error e →
      (¬ d.IsMisdirected ∧ ∃ reason, e = .incomplete reason) ∨
        (d.IsMisdirected ∧ ∃ fault, ServerUrl.normalize d.effectiveUrl = .error fault ∧
          e = fault.error d.effectiveUrl)) ∧
    ∀ c, d.toCredential (Guid.ofRandom random) = .ok c → d.StandFor (Guid.ofRandom random) c := by
  refine ⟨⟨fun ⟨c, h⟩ => (toCredential_eq_ok_iff.1 h).1, fun h => ?_⟩,
    fun e => toCredential_error_cases, fun c h => ?_⟩
  · obtain ⟨url, hurl⟩ := h.exists_normal
    exact ⟨_, toCredential_of_isAdmissible h hurl _⟩
  · have hguid := d.effectiveGuid_ne_empty (Guid.ofRandom_ne_empty random)
    have hwell := isWellFormed_of_toCredential h hguid
    obtain ⟨-, url, hurl, rfl⟩ := toCredential_eq_ok_iff.1 h
    refine ⟨d.name_ownFields, hurl, rfl, fun guid hg hne => ?_, fun hg => ?_,
      isWellFormed_iff.1 hwell⟩
    · simp [storedAt, effectiveGuid, hg, hne]
    · rcases hg with hg | hg <;> simp [storedAt, effectiveGuid, hg]

/-- Details of a hosted account: without a URL, and with a key that is for another kind of server.
-/
def hostedWithKey : Details :=
  { connectCloud "work" .staging "id" "account" "refresh" "access" with apiKey := "key" }

theorem toCredential_exact_hosted :
    hostedWithKey.IsAdmissible ∧ ∃ c, hostedWithKey.toCredential (Guid.ofRandom []) = .ok c ∧
      c.url = "https://staging.connect.posit.cloud" ∧ c.apiKey = "" ∧
      c.guid = Guid.ofRandom [] ∧ ∀ fresh, (preserving c).toCredential fresh = .ok c := by
  obtain ⟨hsuccess, -, hanswer⟩ := toCredential_exact hostedWithKey []
  have hurl : ServerUrl.normalize hostedWithKey.effectiveUrl =
      .ok "https://staging.connect.posit.cloud" := by decide +kernel
  have hadmissible : hostedWithKey.IsAdmissible :=
    ⟨by decide +kernel, by decide +kernel, ⟨_, hurl⟩, by decide, by decide, by decide, by decide⟩
  obtain ⟨c, hc⟩ := hsuccess.2 hadmissible
  have hstands := hanswer c hc
  refine ⟨hadmissible, c, hc, ?_, congrArg Attributes.apiKey hstands.attributes_eq,
    hstands.guid_of_missing (.inl rfl), hstands.preserved⟩
  exact Except.ok.inj (hstands.normalize_url.symm.trans hurl)

end Details

end CredentialStore
