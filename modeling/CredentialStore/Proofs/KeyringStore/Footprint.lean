import CredentialStore.Proofs.KeyringStore.Atomic

/-!
# The keys that a keyring touches

A keyring shares its secret store with others: with the legacy entry, and with whatever other
programs keep there. An operation may fail at any of its calls, and so may what takes a write back;
but each call is for a key that is known before the first one, so nothing else is ever touched. The
identifier of a credential may be any text. It stands behind the start that all keys of credentials
have, and that start is neither the whole nor the beginning of one of the other keys.

Main statements, for all texts of a store and all failing calls:

* `keepsOutside_of_persist` and `keepsOutside_of_removeEntry` — a credential is written, taken back,
  removed and put back under its own key and in the index;
* `keepsOutside_of_reset` — a reset removes keys of the keyring alone;
* `touches_only_own_keys` — what each operation leaves.
-/

namespace CredentialStore.KeyringStore

open Op SecretStore

variable {s t u : SecretStore} {touched touched' : String → Prop}

/-! ## Texts that are left -/

/-- The second store has the texts of the first under all keys but those that may be touched. -/
structure KeepsOutside (touched : String → Prop) (s t : SecretStore) : Prop where
  listing_eq : t.listing = s.listing
  find?_eq : ∀ {key}, ¬ touched key → t.entries.find? key = s.entries.find? key

theorem keepsOutside_of_keeps (h : s.Keeps t) : KeepsOutside touched s t :=
  ⟨h.listing_eq, fun _ => by rw [h.entries_eq]⟩

theorem keepsOutside_of_keepsBut {key : String} (hkey : touched key) (h : KeepsBut key s t) :
    KeepsOutside touched s t := by
  refine ⟨h.listing_eq, fun hnot => h.find?_eq ?_⟩
  rintro rfl
  exact hnot hkey

namespace KeepsOutside

theorem trans (h : KeepsOutside touched s t) (h' : KeepsOutside touched t u) :
    KeepsOutside touched s u :=
  ⟨h'.listing_eq.trans h.listing_eq, fun hnot => (h'.find?_eq hnot).trans (h.find?_eq hnot)⟩

theorem mono (h : KeepsOutside touched s t) (hmono : ∀ key, touched key → touched' key) :
    KeepsOutside touched' s t :=
  ⟨h.listing_eq, fun hnot => h.find?_eq (mt (hmono _) hnot)⟩

end KeepsOutside

/-- The key of one credential, or one of some other keys. -/
def IsOwnKey (guid : String) (others : List String) (key : String) : Prop :=
  key = credentialKey guid ∨ key ∈ others

/-- The second store differs from the first in the record of one identifier and in the texts under
some other keys at most. So it has the same legacy entry, and the same records
of all other identifiers. -/
structure TouchesOnly (guid : String) (others : List String) (s t : SecretStore) : Prop where
  find?_eq : ∀ key, key ≠ credentialKey guid → key ∉ others →
    t.entries.find? key = s.entries.find? key
  legacy_eq : t.entries.find? legacyKey = s.entries.find? legacyKey
  record_eq : ∀ guid', guid' ≠ guid →
    t.entries.find? (credentialKey guid') = s.entries.find? (credentialKey guid')

/-- The keys of the index and of the preference are keys of nothing else. -/
theorem touchesOnly_of_keepsOutside {guid : String} {others : List String}
    (hothers : ∀ key ∈ others, key = indexKey ∨ key = defaultKey)
    (h : KeepsOutside (IsOwnKey guid others) s t) : TouchesOnly guid others s t := by
  have hfind : ∀ key, key ≠ credentialKey guid → key ∉ others →
      t.entries.find? key = s.entries.find? key := fun key hrecord hother =>
    h.find?_eq (not_or.2 ⟨hrecord, hother⟩)
  refine ⟨hfind, ?_, fun guid' hne => ?_⟩
  · refine hfind legacyKey (credentialKey_ne_legacyKey guid).symm fun hmem => ?_
    exact absurd (hothers _ hmem) (by decide)
  · refine hfind _ (fun hkey => hne (credentialKey_inj.1 hkey)) fun hmem => ?_
    rcases hothers _ hmem with hindex | hdefault
    · exact credentialKey_ne_indexKey guid' hindex
    · exact credentialKey_ne_defaultKey guid' hdefault

/-! ## Writing a credential -/

/-- Only the index is touched when a credential is entered, whether that fails or not. -/
theorem keepsBut_of_enter {c : Credential} {r : Except CredentialError Unit}
    (h : (enter c).Yields s r t) : KeepsBut indexKey s t := by
  rcases enter_leaves h with ⟨-, henters⟩ | ⟨-, -, hkeeps⟩
  · exact ⟨henters.listing_eq, henters.find?_eq⟩
  · exact hkeeps.keepsBut indexKey

/-- A record is taken back under the key under which it was put. -/
theorem keepsBut_of_takeBack {c : Credential} {previous : Option Credential}
    (hprevious : ∀ p, previous = some p → p.guid = c.guid) {r : Except CredentialError Unit}
    (h : (takeBack c previous).Yields s r t) : KeepsBut (credentialKey c.guid) s t := by
  cases previous with
  | none => exact keepsBut_of_remove h
  | some p =>
    have hput := keepsBut_of_put h
    rwa [hprevious p rfl] at hput

theorem keepsOutside_of_persist {c : Credential} {previous : Option Credential}
    (hprevious : ∀ p, previous = some p → p.guid = c.guid) {r : Except CredentialError Unit}
    (h : (persist c previous).Yields s r t) : KeepsOutside (IsOwnKey c.guid [indexKey]) s t := by
  have hrecord : IsOwnKey c.guid [indexKey] (credentialKey c.guid) := .inl rfl
  have hindex : IsOwnKey c.guid [indexKey] indexKey := .inr List.mem_cons_self
  rcases persist_steps h with ⟨e, hsave, -⟩ | ⟨s₁, hsave, -, hrest⟩
  · exact keepsOutside_of_keepsBut hrecord (keepsBut_of_put hsave)
  have h₁ := keepsOutside_of_keepsBut hrecord (keepsBut_of_put hsave)
  rcases hrest with ⟨henter, -⟩ | ⟨e, s₂, q, henter, hback, -⟩
  · exact h₁.trans (keepsOutside_of_keepsBut hindex (keepsBut_of_enter henter))
  · -- the entry has failed; whether taking back fails as well, it is for the same key
    have h₂ := h₁.trans (keepsOutside_of_keepsBut hindex (keepsBut_of_enter henter))
    exact h₂.trans (keepsOutside_of_keepsBut hrecord (keepsBut_of_takeBack hprevious hback))

theorem keepsOutside_of_set {fresh : String} {details : Details}
    {r : Except CredentialError Credential} (h : (set fresh details).Yields s r t) :
    KeepsOutside (IsOwnKey (details.effectiveGuid fresh) [indexKey]) s t := by
  rcases set_steps h with ⟨hkeeps, -⟩ | ⟨existing, c, u, q, hload, hvalid, -, hpersist, -⟩
  · exact keepsOutside_of_keeps hkeeps
  · have hnone : ∀ p, (none : Option Credential) = some p → p.guid = c.guid := by
      intro p hp
      cases hp
    have hwritten := keepsOutside_of_persist hnone hpersist
    rw [Details.toCredential_guid hvalid] at hwritten
    exact (keepsOutside_of_keeps (loadAll_cases hload).1).trans hwritten

/-- The identifier of what a forced write stores: that of the credential of the same name that is
listed first, whose place it takes, and otherwise that of a new credential. -/
def forcedGuid (s : SecretStore) (fresh : String) (details : Details) : String :=
  match (service.list s.restored).answer with
  | .ok cs =>
    match cs.find? (·.name == details.name) with
    | some p => p.guid
    | none => details.effectiveGuid fresh
  | .error _ => details.effectiveGuid fresh

theorem forcedGuid_of_replaces {fresh : String} {details : Details} {existing : List Credential}
    {candidate c : Credential} {previous : Option Credential}
    (hload : loadAll.Yields s (.ok existing) u) (hvalid : details.toCredential fresh = .ok candidate)
    (h : Replaces existing candidate c previous) :
    c.guid = forcedGuid s fresh details ∧ ∀ p, previous = some p → p.guid = c.guid := by
  have hlist : (service.list s.restored).answer = .ok existing := (yields_loadAll_restored hload).1
  have hname : candidate.name = details.name := by
    obtain ⟨-, url, a, -, -, rfl⟩ := Details.toCredential_cases hvalid
    rfl
  unfold forcedGuid
  rw [hlist, ← hname]
  cases h with
  | new hfind =>
    dsimp only
    rw [hfind]
    exact ⟨Details.toCredential_guid hvalid, fun p hp => nomatch hp⟩
  | named hfind =>
    dsimp only
    rw [hfind]
    refine ⟨rfl, ?_⟩
    rintro p ⟨⟩
    rfl

theorem keepsOutside_of_forceSet {fresh : String} {details : Details}
    {r : Except CredentialError Credential} (h : (forceSet fresh details).Yields s r t) :
    KeepsOutside (IsOwnKey (forcedGuid s fresh details) [indexKey]) s t := by
  rcases forceSet_steps h with
    ⟨hkeeps, -⟩ | ⟨existing, candidate, c, previous, u, q, hload, hvalid, hreplaces, hpersist, -⟩
  · exact keepsOutside_of_keeps hkeeps
  · obtain ⟨hguid, hprevious⟩ := forcedGuid_of_replaces hload hvalid hreplaces
    have hwritten := keepsOutside_of_persist hprevious hpersist
    rw [hguid] at hwritten
    exact (keepsOutside_of_keeps (loadAll_cases hload).1).trans hwritten

/-! ## Removing a credential -/

theorem keepsOutside_of_removeEntry {guid text : String} {r : Except CredentialError Unit}
    (h : (removeEntry guid text).Yields s r t) :
    KeepsOutside (IsOwnKey guid [indexKey]) s t := by
  have hrecord : IsOwnKey guid [indexKey] (credentialKey guid) := .inl rfl
  have hindex : IsOwnKey guid [indexKey] indexKey := .inr List.mem_cons_self
  rcases removeEntry_steps h with ⟨-, hremove⟩ | ⟨-, ⟨e, hload, -⟩ | ⟨index, s₁, hload, hrest⟩⟩
  · exact keepsOutside_of_keepsBut hrecord (keepsBut_of_remove hremove)
  · exact keepsOutside_of_keeps (loadIndex_cases hload).1
  have h₁ : KeepsOutside (IsOwnKey guid [indexKey]) s s₁ :=
    keepsOutside_of_keeps (loadIndex_cases hload).1
  rcases hrest with ⟨e, hremove, -⟩ | ⟨s₂, hremove, hrest⟩
  · exact h₁.trans (keepsOutside_of_keepsBut hrecord (keepsBut_of_remove hremove))
  have h₂ := h₁.trans (keepsOutside_of_keepsBut hrecord (keepsBut_of_remove hremove))
  rcases hrest with ⟨hsave, -⟩ | ⟨e, s₃, q, hsave, hput, -⟩
  · exact h₂.trans (keepsOutside_of_keepsBut hindex (keepsBut_of_put hsave))
  · -- the index has not been written; whether putting back fails as well, it is for the same key
    have h₃ := h₂.trans (keepsOutside_of_keepsBut hindex (keepsBut_of_put hsave))
    exact h₃.trans (keepsOutside_of_keepsBut hrecord (keepsBut_of_put hput))

theorem keepsOutside_of_removeRecord {guid : String} {r : Except CredentialError Unit}
    (h : (removeRecord guid).Yields s r t) : KeepsOutside (IsOwnKey guid [indexKey]) s t := by
  rcases h.bind_cases with ⟨e, hread, -⟩ | ⟨text?, u, hread, hrest⟩
  · exact keepsOutside_of_keeps (read_cases hread).1
  refine (keepsOutside_of_keeps (read_cases hread).1).trans ?_
  cases text? with
  | none =>
    obtain ⟨-, rfl⟩ := (yields_throw _ u).unique hrest
    exact keepsOutside_of_keeps (.refl u)
  | some text => exact keepsOutside_of_removeEntry hrest

theorem keepsOutside_of_delete {guid : String} {r : Except CredentialError Unit}
    (h : (delete guid).Yields s r t) :
    KeepsOutside (IsOwnKey guid [indexKey, defaultKey]) s t := by
  have hmono : ∀ key, IsOwnKey guid [indexKey] key → IsOwnKey guid [indexKey, defaultKey] key :=
    fun key hkey => hkey.imp_right fun hmem => List.mem_append_left [defaultKey] hmem
  have hdefault : IsOwnKey guid [indexKey, defaultKey] defaultKey := .inr (by simp)
  rw [delete_eq] at h
  rcases h.bind_cases with ⟨e, hremove, -⟩ | ⟨_, u, hremove, hforget⟩
  · exact (keepsOutside_of_removeRecord hremove).mono hmono
  · exact ((keepsOutside_of_removeRecord hremove).mono hmono).trans
      (keepsOutside_of_keepsBut hdefault (keepsBut_of_forget hforget))

/-! ## Resets and preferences -/

/-- A reset removes keys of the keyring, however far it gets. -/
theorem keepsOutside_of_reset {r : Except CredentialError ResetOutcome}
    (h : reset.Yields s r t) : KeepsOutside IsKeyringKey s t := by
  have hremove : ∀ {key}, IsKeyringKey key →
      (Functor.discard (remove key)).Preserves (KeepsOutside IsKeyringKey s) := fun hkey =>
    preserves_iff.2 fun _ _ _ hremove hs =>
      hs.trans (keepsOutside_of_keepsBut hkey (keepsBut_of_remove hremove))
  have hguids : guids.Preserves (KeepsOutside IsKeyringKey s) :=
    preserves_iff.2 fun _ _ _ hguids hs => hs.trans (keepsOutside_of_keeps (guids_cases hguids).1)
  have hreset := reset_respects hguids (fun guid => hremove (.inl ⟨guid, rfl⟩))
    (hremove (.inr (.inl rfl))) (hremove (.inr (.inr rfl)))
  exact Preserves.of_yields hreset h (keepsOutside_of_keeps (.refl s))

theorem keepsBut_of_setDefaultServer {guid : String} {r : Except CredentialError Unit}
    (h : (setDefaultServer guid).Yields s r t) : KeepsBut defaultKey s t := by
  rcases h.bind_cases with ⟨e, hload, -⟩ | ⟨c?, u, hload, hrest⟩
  · exact (load_cases hload).1.keepsBut defaultKey
  refine ((load_cases hload).1.keepsBut defaultKey).trans ?_
  cases c? with
  | none =>
    obtain ⟨-, rfl⟩ := (yields_throw _ u).unique hrest
    exact (Keeps.refl u).keepsBut defaultKey
  | some c => exact keepsBut_of_put hrest

/-- The parts of a reading operation leave all texts. -/
theorem admitsReads_keeps (s : SecretStore) : AdmitsReads (Both s.Keeps) where
  guids := preserves_iff.2 fun _ _ _ hguids hs => hs.trans (guids_cases hguids).1
  load _ := preserves_iff.2 fun _ _ _ hload hs => hs.trans (load_cases hload).1
  defaultGuid := preserves_iff.2 fun _ _ _ hdefault hs => by
    obtain ⟨q, hread, -⟩ := hdefault.of_map
    exact hs.trans (read_cases hread).1

/-- Whatever texts a secret store has and whatever calls fail, an operation on a keyring leaves all
keys but its own: a write touches the record of the credential that is stored and the index, a
removal also the preference, a choice of the preferred credential nothing but that, and a reset the
keys of the keyring. A reading operation touches nothing. -/
theorem touches_only_own_keys (s : SecretStore) (guid fresh : String) (details : Details) :
    TouchesOnly (details.effectiveGuid fresh) [indexKey] s (service.set fresh details s).state ∧
    TouchesOnly (forcedGuid s fresh details) [indexKey] s
      (service.forceSet fresh details s).state ∧
    TouchesOnly guid [indexKey, defaultKey] s (service.delete guid s).state ∧
    KeepsBut defaultKey s (service.setDefaultServer guid s).state ∧
    KeepsBut defaultKey s (service.clearDefaultServer s).state ∧
    KeepsOutside IsKeyringKey s (service.reset s).state ∧
    s.Keeps (service.list s).state ∧ s.Keeps (service.get guid s).state ∧
    s.Keeps (service.defaultServer s).state := by
  have hreads := admitsReads_keeps s
  refine ⟨?_, ?_, ?_, ?_, ?_, ?_, ?_, ?_, ?_⟩
  · exact touchesOnly_of_keepsOutside (by simp) (keepsOutside_of_set (yields_self _ s))
  · exact touchesOnly_of_keepsOutside (by simp) (keepsOutside_of_forceSet (yields_self _ s))
  · exact touchesOnly_of_keepsOutside (by simp) (keepsOutside_of_delete (yields_self _ s))
  · exact keepsBut_of_setDefaultServer (yields_self _ s)
  · exact keepsBut_of_remove (yields_self _ s)
  · exact keepsOutside_of_reset (yields_self _ s)
  · exact Preserves.of_yields hreads.loadAll (yields_self _ s) (.refl s)
  · exact Preserves.of_yields (hreads.get guid) (yields_self _ s) (.refl s)
  · exact Preserves.of_yields hreads.defaultServer (yields_self _ s) (.refl s)

/-- A store with the record of a credential, the legacy entry and a text of another program,
whose index fails to be read after a record was put. -/
def sharedStore : SecretStore :=
  indexLockedOnce { listing := false, entries := .ofList [
    (credentialKey "old", "record"), (legacyKey, "table"), ("calendar", "Monday")] }

/-- A write that fails in the middle leaves what is not its own. -/
theorem touches_only_own_keys_sharedStore :
    let outcome := service.set "new" (.connect "home" "https://c.d" "k") sharedStore
    outcome.answer = .error (.load "locked") ∧
    outcome.state.entries.find? legacyKey = some "table" ∧
    outcome.state.entries.find? "calendar" = some "Monday" ∧
    outcome.state.entries.find? (credentialKey "old") = some "record" := by
  obtain ⟨hset, -⟩ :=
    touches_only_own_keys sharedStore "" "new" (.connect "home" "https://c.d" "k")
  exact ⟨by decide +kernel, hset.legacy_eq.trans (by decide +kernel),
    (hset.find?_eq "calendar" (by decide) (by decide)).trans (by decide +kernel),
    (hset.record_eq "old" (by decide +kernel)).trans (by decide +kernel)⟩

end CredentialStore.KeyringStore
