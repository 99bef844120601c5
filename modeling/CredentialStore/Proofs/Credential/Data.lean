import CredentialStore.Credential.Json

/-!
# What stored data tells

The data of a credential is read field by field. Eleven fields are texts and are read alike, so that
what is read of them is one statement about a list of names and texts; the kind of server and the
deployment are choices, each with a default of its own. Data tells a credential exactly if its
fields tell the members of the credential one by one. Which of the fields are there, in which order
they stand and whether others stand beside them makes no difference beyond that.

Main statements:

* `Credential.ofData?_eq_some_iff` — data tells a credential exactly if its fields tell its members;
* `Credential.isToldBy_of_ofData?` — so do the members of an object, known ones and others;
* `Credential.ofData?_toData` — the data that is written of a credential tells it.
-/

namespace CredentialStore

namespace Json

/-- The fields of an object are its members of known names. -/
theorem eq_filter_of_fields? {names : List String} {members fields : List (String × Json)}
    (h : (Json.object members).fields? names = some fields) :
    fields = members.filter fun m => names.contains m.1 := by
  have h : (if ((members.filter fun m => names.contains m.1).map Prod.fst).Nodup then
      some (members.filter fun m => names.contains m.1) else none) = some fields := h
  split at h
  · exact (Option.some.inj h).symm
  · cases h

/-- Members of other names do not change what is found under a known one. -/
theorem field?_filter {names : List String} {name : String} (hname : name ∈ names)
    (members : List (String × Json)) :
    field? (members.filter fun m => names.contains m.1) name = field? members name := by
  rw [field?, List.find?_filter, field?]
  refine congrArg (Option.map Prod.snd) (congrArg (members.find? ·) (funext fun m => ?_))
  by_cases hm : m.1 = name
  · simp [hm, hname]
  · simp [hm]

end Json

namespace Credential

/-! ## Texts -/

/-- The members whose values are texts of any kind. -/
def texts (c : Credential) : List (String × String) :=
  [("guid", c.guid), ("name", c.name), ("url", c.url), ("apiKey", c.apiKey), ("token", c.token),
    ("privateKey", c.privateKey), ("snowflakeConnection", c.snowflakeConnection),
    ("accountId", c.accountId), ("accountName", c.accountName), ("refreshToken", c.refreshToken),
    ("accessToken", c.accessToken)]

/-- All members are texts but the two choices. -/
theorem filter_members (c : Credential) :
    (c.members.filter fun m => m.1 ≠ "serverType" && m.1 ≠ "cloudEnvironment") =
      c.texts.map fun m => (m.1, .string m.2) := rfl

theorem mem_texts_iff {c : Credential} {name value : String} :
    (name, value) ∈ c.texts ↔
      (name, .string value) ∈ c.members ∧ name ≠ "serverType" ∧ name ≠ "cloudEnvironment" := by
  have hmap : (name, Json.string value) ∈ c.texts.map (fun m => (m.1, Json.string m.2)) ↔
      (name, value) ∈ c.texts := by
    simp
  rw [← hmap, ← filter_members, List.mem_filter]
  simp

/-! ## Fields -/

/-- A credential is what members tell: a text is the one of the member of its name and empty where
there is none, the kind of server is the one that is named and otherwise the one that the URL is
recognised as, and the deployment is the one that is named and otherwise the usual one. -/
structure IsToldBy (c : Credential) (members : List (String × Json)) : Prop where
  text?_eq : ∀ {name value}, (name, .string value) ∈ c.members → name ≠ "serverType" →
    name ≠ "cloudEnvironment" → Json.text? members name = some value
  serverType_eq : ∃ named, Json.optionalChoice? ServerType.ofText? members "serverType" = some named ∧
    c.serverType = named.getD (ServerType.ofUrl c.url)
  cloudEnvironment_eq : ∃ named,
    Json.optionalChoice? CloudEnvironment.ofText? members "cloudEnvironment" = some named ∧
      c.cloudEnvironment = named.getD .production

namespace IsToldBy

variable {c : Credential} {fields fields' : List (String × Json)}

theorem text?_of_mem_texts (h : c.IsToldBy fields) :
    ∀ m ∈ c.texts, Json.text? fields m.1 = some m.2 := by
  intro m hm
  obtain ⟨hmem, htype, hcloud⟩ := mem_texts_iff.1 hm
  exact h.text?_eq hmem htype hcloud

theorem of_texts (htexts : ∀ m ∈ c.texts, Json.text? fields m.1 = some m.2)
    {type : Option ServerType} {cloud : Option CloudEnvironment}
    (htype : Json.optionalChoice? ServerType.ofText? fields "serverType" = some type)
    (hserver : c.serverType = type.getD (ServerType.ofUrl c.url))
    (hcloud : Json.optionalChoice? CloudEnvironment.ofText? fields "cloudEnvironment" = some cloud)
    (henvironment : c.cloudEnvironment = cloud.getD .production) : c.IsToldBy fields :=
  ⟨fun hmem hne hne' => htexts _ (mem_texts_iff.2 ⟨hmem, hne, hne'⟩), ⟨type, htype, hserver⟩,
    ⟨cloud, hcloud, henvironment⟩⟩

/-- What is found under the known names is all that counts. -/
theorem congr (h : c.IsToldBy fields)
    (hfield : ∀ name ∈ memberNames, Json.field? fields' name = Json.field? fields name) :
    c.IsToldBy fields' := by
  refine ⟨fun {name value} hmem htype hcloud => ?_, ?_, ?_⟩
  · have hname : name ∈ memberNames := List.mem_map_of_mem (f := Prod.fst) hmem
    rw [Json.text?, hfield name hname]
    exact h.text?_eq hmem htype hcloud
  · rw [Json.optionalChoice?, hfield _ (by decide)]
    exact h.serverType_eq
  · rw [Json.optionalChoice?, hfield _ (by decide)]
    exact h.cloudEnvironment_eq

end IsToldBy

/-- Data tells a credential exactly if its fields tell the members of the credential. -/
theorem ofData?_eq_some_iff {j : Json} {fields : List (String × Json)}
    (hfields : j.fields? memberNames = some fields) {c : Credential} :
    ofData? j = some c ↔ c.IsToldBy fields := by
  unfold ofData?
  rw [hfields]
  dsimp only [Option.bind_eq_bind, Option.bind_some, Option.pure_def]
  -- the outermost field is taken off first, so that no step looks into those that are read after it
  simp only [↓Option.bind_eq_some_iff, Option.some.injEq]
  constructor
  · rintro ⟨type, htype, cloud, hcloud, url, hurl, guid, hguid, name, hname, apiKey, hkey, token,
      htoken, privateKey, hprivate, snowflakeConnection, hsnowflake, accountId, haccount,
      accountName, haccountName, refreshToken, hrefresh, accessToken, haccess, rfl⟩
    refine .of_texts ?_ htype rfl hcloud rfl
    simp only [texts, List.forall_mem_cons]
    exact ⟨hguid, hname, hurl, hkey, htoken, hprivate, hsnowflake, haccount, haccountName, hrefresh,
      haccess, nofun⟩
  · intro h
    obtain ⟨type, htype, hserver⟩ := h.serverType_eq
    obtain ⟨cloud, hcloud, henvironment⟩ := h.cloudEnvironment_eq
    have htexts := h.text?_of_mem_texts
    simp only [texts, List.forall_mem_cons] at htexts
    obtain ⟨hguid, hname, hurl, hkey, htoken, hprivate, hsnowflake, haccount, haccountName,
      hrefresh, haccess, -⟩ := htexts
    exact ⟨type, htype, cloud, hcloud, _, hurl, _, hguid, _, hname, _, hkey, _, htoken, _, hprivate,
      _, hsnowflake, _, haccount, _, haccountName, _, hrefresh, _, haccess,
      by rw [← hserver, ← henvironment]⟩

/-- Members of other names are passed over. -/
theorem isToldBy_of_ofData? {members : List (String × Json)} {c : Credential}
    (h : ofData? (.object members) = some c) : c.IsToldBy members := by
  obtain ⟨fields, hfields, -⟩ := Option.bind_eq_some_iff.1 h
  refine ((ofData?_eq_some_iff hfields).1 h).congr fun name hname => ?_
  rw [Json.eq_filter_of_fields? hfields]
  exact (Json.field?_filter hname members).symm

/-- Stored data tells all of a credential. -/
theorem ofData?_toData (c : Credential) : ofData? c.toData = some c := by
  obtain ⟨fields, hfields⟩ : ∃ fields, c.toData = .object fields := ⟨_, rfl⟩
  -- all members are known ones
  have hknown : c.toData.fields? memberNames = some fields := by
    rw [hfields]
    cases hfields
    rfl
  have htype : Json.optionalChoice? ServerType.ofText? fields "serverType" =
      some (some c.serverType) := by
    cases hfields
    exact congrArg (Option.map some) (ServerType.ofText?_text c.serverType)
  have hcloud : Json.optionalChoice? CloudEnvironment.ofText? fields "cloudEnvironment" =
      some (some c.cloudEnvironment) := by
    cases hfields
    exact congrArg (Option.map some) (CloudEnvironment.ofText?_text c.cloudEnvironment)
  refine (ofData?_eq_some_iff hknown).2 (.of_texts ?_ htype rfl hcloud rfl)
  -- the texts are found under their own names
  cases hfields
  simp [texts, Json.text?, Json.field?, Json.string?]

end Credential

end CredentialStore
