import CredentialStore.Proofs.Credential.WellFormed
import CredentialStore.Proofs.KeyringStore.Alike
import CredentialStore.Proofs.KeyringStore.Reachable
import CredentialStore.Proofs.KeyringStore.Reset
import CredentialStore.Proofs.KeyringStore.Writes

/-!
# Writes that fail

A keyring changes several texts in one request. Where one call fails at most, a request to store a
credential that fails has changed nothing, except that the record of a credential that was to be
replaced may be written anew. A request to remove one has changed nothing if it fails before the
record is gone; if it fails after that, at the preference, the credential is lost.

Main statements:

* `set_leaves`, `forceSet_leaves` and `removeRecord_leaves` — what a request leaves, done or failed;
* `entries_of_error` — a credential is stored or nothing is;
* `answersAlike_delete_iff` — which failed removals leave everything.
-/

namespace CredentialStore.KeyringStore

open Op SecretStore

variable {s t : SecretStore} {fresh : String} {details : Details}

/-! ## Storing a credential -/

/-- An identifier that none of the loaded credentials has cannot be enumerated. -/
theorem not_isListed_of_loadAll (howns : OwnsRecords s) {cs : List Credential}
    (hload : loadAll.Yields s (.ok cs) t) {guid : String} (hguid : ∀ c ∈ cs, c.guid ≠ guid) :
    ¬ IsListed s guid := by
  intro hlisted
  obtain ⟨hmem, hreadable⟩ := (loadAll_cases hload).2 cs rfl
  obtain ⟨c, hc⟩ := Option.ne_none_iff_exists'.1 (hreadable guid hlisted)
  exact hguid c ((hmem c).2 ⟨guid, hlisted, hc⟩) (howns.guid_eq hc)

/-- Loading uses up no more than the calls that fail. -/
theorem failsAtMost_of_loadAll {n : Nat} (h : s.FailsAtMost n) {cs : List Credential}
    (hload : loadAll.Yields s (.ok cs) t) : t.FailsAtMost n :=
  Preserves.of_yields (stable_failsAtMost n).admits.loadAll hload h

/-- Where one call fails at most, a credential is stored, or the request fails and leaves all texts.
-/
theorem set_leaves (honce : s.FailsAtMost 1) (howns : OwnsRecords s)
    (hunused : ∀ c, details.toCredential fresh = .ok c → ¬ IsListed s c.guid →
      s.entries.find? (credentialKey c.guid) = none)
    {r : Except CredentialError Credential} (hset : (set fresh details).Yields s r t) :
    (∃ c, r = .ok c ∧ Enters c (withRecord s c) t) ∨ (∃ e, r = .error e) ∧ s.Keeps t := by
  rcases set_steps hset with ⟨hkeeps, hfailed⟩ | ⟨cs, c, u, q, hload, hvalid, hguids, hpersist, rfl⟩
  · exact .inr ⟨hfailed, hkeeps⟩
  have hkeeps := (loadAll_cases hload).1
  have hindex := (isIndexReadable_of_loadAll hload).of_keeps hkeeps
  have hnone := hunused c hvalid (not_isListed_of_loadAll howns hload hguids)
  rcases persist_leaves (failsAtMost_of_loadAll honce hload) hindex hpersist with
    ⟨rfl, henters⟩ | ⟨⟨e, rfl⟩, hleft⟩
  · exact .inl ⟨c, rfl, .of_keeps_left (keeps_withRecord hkeeps c) henters⟩
  · refine .inr ⟨⟨e, rfl⟩, hkeeps.trans ?_⟩
    rw [← hkeeps.entries_eq] at hnone
    rwa [takenBack_none hnone, or_self] at hleft

/-- The credential that a forced write under a name replaces. -/
def IsReplaced (s : SecretStore) (name : String) (p : Credential) : Prop :=
  ∃ cs, (service.list s.restored).answer = .ok cs ∧ cs.find? (·.name == name) = some p

/-- Where one call fails at most, a credential is stored, or the request fails and leaves all texts,
but that the record of the credential to be replaced may be written anew. -/
theorem forceSet_leaves (honce : s.FailsAtMost 1) (howns : OwnsRecords s)
    (hunused : s.entries.find? (credentialKey (details.effectiveGuid fresh)) = none)
    {r : Except CredentialError Credential} (hset : (forceSet fresh details).Yields s r t) :
    (∃ c, r = .ok c ∧ Enters c (withRecord s c) t) ∨
      (∃ e, r = .error e) ∧ (s.Keeps t ∨ ∃ p, IsReplaced s details.name p ∧
        recordOf? s.entries p.guid = some p ∧ (withRecord s p).Keeps t) := by
  rcases forceSet_steps hset with
    ⟨hkeeps, hfailed⟩ | ⟨cs, d, c, previous, u, q, hload, hvalid, hreplaces, hpersist, rfl⟩
  · exact .inr ⟨hfailed, .inl hkeeps⟩
  have hkeeps := (loadAll_cases hload).1
  have hindex := (isIndexReadable_of_loadAll hload).of_keeps hkeeps
  rcases persist_leaves (failsAtMost_of_loadAll honce hload) hindex hpersist with
    ⟨rfl, henters⟩ | ⟨⟨e, rfl⟩, hleft⟩
  · exact .inl ⟨c, rfl, .of_keeps_left (keeps_withRecord hkeeps c) henters⟩
  refine .inr ⟨⟨e, rfl⟩, ?_⟩
  cases hreplaces with
  | new hfind =>
    rw [← Details.toCredential_guid hvalid, ← hkeeps.entries_eq] at hunused
    rw [takenBack_none hunused, or_self] at hleft
    exact .inl (hkeeps.trans hleft)
  | @named p hfind =>
    have hback : takenBack u { d with guid := p.guid } (some p) = withRecord u p :=
      takenBack_some rfl
    rw [hback] at hleft
    refine hleft.imp hkeeps.trans fun hput => ⟨p, ?_, ?_, (keeps_withRecord hkeeps p).trans hput⟩
    · obtain ⟨-, url, a, -, -, rfl⟩ := Details.toCredential_cases hvalid
      exact ⟨cs, (yields_loadAll_restored hload).1, hfind⟩
    · -- what was loaded from a record has the identifier of that record
      obtain ⟨hmem, -⟩ := (loadAll_cases hload).2 cs rfl
      obtain ⟨guid, -, hrecord⟩ := (hmem p).1 (List.mem_of_find?_eq_some hfind)
      rwa [howns.guid_eq hrecord]

/-- A record that is written anew decodes to what it did. -/
theorem readsAlike_of_withRecord {p : Credential} (hrecord : recordOf? s.entries p.guid = some p)
    (h : (withRecord s p).Keeps t) : ReadsAlike s.restored t.restored where
  responds_left := responds_restored s
  responds_right := responds_restored t
  listing_eq := h.listing_eq
  records_eq guid := by
    show (t.entries.find? _).map _ = (s.entries.find? _).map _
    rw [h.entries_eq, find?_withRecord]
    split
    · rename_i hkey
      obtain rfl := credentialKey_inj.1 hkey
      obtain ⟨text, htext, hdecode⟩ := recordOf?_eq_some_iff.1 hrecord
      rw [htext, Option.map_some, Option.map_some, decode_write, hdecode]
    · rfl
  index_eq := by
    show t.entries.find? _ = _
    rw [h.entries_eq, find?_withRecord, if_neg (credentialKey_ne_indexKey p.guid)]
    rfl
  preferred_eq := by
    show t.entries.find? _ = _
    rw [h.entries_eq, find?_withRecord, if_neg (credentialKey_ne_defaultKey p.guid)]
    rfl

/-- Where one call fails at most, a request to store a credential that fails has changed no text. A
forced one has changed no text but the record of the credential to be replaced, which still decodes
to it, so that everything is answered as before. -/
theorem entries_of_error (h : Reachable s) (honce : s.FailsAtMost 1)
    (hunused : s.entries.find? (credentialKey (details.effectiveGuid fresh)) = none) :
    (∀ e, (service.set fresh details s).answer = .error e →
      (service.set fresh details s).state.entries = s.entries) ∧
    ∀ e, (service.forceSet fresh details s).answer = .error e →
      AnswersAlike s.restored (service.forceSet fresh details s).state.restored ∧
      ((service.forceSet fresh details s).state.entries = s.entries ∨
        ∃ p, IsReplaced s details.name p ∧ recordOf? s.entries p.guid = some p ∧
          recordOf? (service.forceSet fresh details s).state.entries p.guid = some p ∧
          KeepsBut (credentialKey p.guid) s (service.forceSet fresh details s).state) := by
  have howns := h.ownsRecords
  constructor
  · intro e he
    have hfree : ∀ c, details.toCredential fresh = .ok c → ¬ IsListed s c.guid →
        s.entries.find? (credentialKey c.guid) = none := fun c hc _ => by
      rwa [Details.toCredential_guid hc]
    rcases set_leaves honce howns hfree ⟨he, rfl⟩ with ⟨c, hc, -⟩ | ⟨-, hkeeps⟩
    · cases hc
    · exact hkeeps.entries_eq
  · intro e he
    rcases forceSet_leaves honce howns hunused ⟨he, rfl⟩ with
      ⟨c, hc, -⟩ | ⟨-, hkeeps | ⟨p, hreplaced, hrecord, hput⟩⟩
    · cases hc
    · exact ⟨(ReadsAlike.of_keeps hkeeps).answersAlike, .inl hkeeps.entries_eq⟩
    · refine ⟨(readsAlike_of_withRecord hrecord hput).answersAlike,
        .inr ⟨p, hreplaced, hrecord, ?_, ?_⟩⟩
      · have hentries : (service.forceSet fresh details s).state.entries = _ := hput.entries_eq
        rw [hentries, recordOf?_withRecord, if_pos rfl]
      · exact (keepsBut_withRecord s p).trans (hput.keepsBut _)

/-- A store whose index can be read one more time and then fails to be read once. -/
def indexLockedOnce (s : SecretStore) : SecretStore :=
  { s with faults := [{
      call := .retrieve, keyStart := indexKey, error := .keyring "locked", skip := 1,
      times := some 1 }] }

/-- A store that cannot list its keys, with nothing in it. -/
def unlistedEmpty : SecretStore :=
  { listing := false }

/-- The same with one credential. -/
def unlistedStored : SecretStore :=
  ((Turn.set [] (.connect "work" "https://a.b" "k")).take unlistedEmpty).state

/-- A new credential is taken back, and one that was to be replaced is put back. -/
theorem entries_of_error_indexLockedOnce :
    let details : Details := .connect "work" "https://a.b" "k"
    (Reachable (indexLockedOnce unlistedEmpty) ∧ (indexLockedOnce unlistedEmpty).FailsAtMost 1 ∧
      (service.set "new" details (indexLockedOnce unlistedEmpty)).answer =
        .error (.load "locked") ∧
      (service.set "new" details (indexLockedOnce unlistedEmpty)).state.entries =
        unlistedEmpty.entries) ∧
    Reachable (indexLockedOnce unlistedStored) ∧ (indexLockedOnce unlistedStored).FailsAtMost 1 ∧
      (service.forceSet "new" details (indexLockedOnce unlistedStored)).answer =
        .error (.load "locked") ∧
      AnswersAlike (indexLockedOnce unlistedStored).restored
        (service.forceSet "new" details (indexLockedOnce unlistedStored)).state.restored := by
  intro details
  have hempty : Reachable (indexLockedOnce unlistedEmpty) := .unused fun _ _ => rfl
  have hturn : Reachable unlistedStored := .turn (.unused fun _ _ => rfl) _ trivial
  have hstored : Reachable (indexLockedOnce unlistedStored) := .between hturn rfl fun _ _ => rfl
  have honce : (indexLockedOnce unlistedEmpty).FailsAtMost 1 := ⟨by decide, rfl⟩
  have honce' : (indexLockedOnce unlistedStored).FailsAtMost 1 := ⟨by decide, by decide +kernel⟩
  have hunused : (indexLockedOnce unlistedStored).entries.find?
      (credentialKey (details.effectiveGuid "new")) = none := by decide +kernel
  have hset : (service.set "new" details (indexLockedOnce unlistedEmpty)).answer =
      .error (.load "locked") := by decide +kernel
  have hforceSet : (service.forceSet "new" details (indexLockedOnce unlistedStored)).answer =
      .error (.load "locked") := by decide +kernel
  exact ⟨⟨hempty, honce, hset, (entries_of_error hempty honce rfl).1 _ hset⟩, hstored, honce',
    hforceSet, ((entries_of_error hstored honce' hunused).2 _ hforceSet).1⟩

/-! ## Removing a credential -/

/-- Where one call fails at most, a record is removed, with its place in the index, or the removal
fails and leaves all texts. -/
theorem removeRecord_leaves (honce : s.FailsAtMost 1) {guid : String}
    {r : Except CredentialError Unit} (h : (removeRecord guid).Yields s r t) :
    (r = .ok () ∧ s.entries.find? (credentialKey guid) ≠ none ∧ Removes guid s t) ∨
      (∃ e, r = .error e) ∧ s.Keeps t := by
  rcases h.bind_cases with ⟨e, hread, rfl⟩ | ⟨text?, u, hread, hrest⟩
  · exact .inr ⟨⟨e, rfl⟩, (read_cases hread).1⟩
  obtain ⟨hkeeps, htext | ⟨e, he⟩⟩ := read_cases hread
  · cases htext
    cases htext : s.entries.find? (credentialKey guid) with
    | none =>
      rw [htext] at hrest
      obtain ⟨rfl, rfl⟩ := (yields_throw _ u).unique hrest
      exact .inr ⟨⟨_, rfl⟩, hkeeps⟩
    | some text =>
      rw [htext] at hrest
      have honce₁ : u.FailsAtMost 1 := read_spends honce hread
      rw [← hkeeps.entries_eq] at htext
      rcases removeEntry_leaves honce₁ htext hrest with ⟨rfl, hremoves⟩ | ⟨hfailed, hkeeps₁⟩
      · exact .inl ⟨rfl, Option.some_ne_none text, .of_keeps_left hkeeps hremoves⟩
      · exact .inr ⟨hfailed, hkeeps.trans hkeeps₁⟩
  · cases he

/-- Taking the preference back leaves all other texts. -/
theorem keepsBut_of_forget {guid : String} {r : Except CredentialError Unit}
    (h : (forget guid).Yields s r t) : KeepsBut defaultKey s t := by
  rcases h.bind_cases with ⟨e, hdefault, -⟩ | ⟨preferred, u, hdefault, hrest⟩
  · obtain ⟨q, hread, -⟩ := hdefault.of_map
    exact (read_cases hread).1.keepsBut _
  obtain ⟨q, hread, -⟩ := hdefault.of_map
  refine ((read_cases hread).1.keepsBut _).trans ?_
  split at hrest
  · exact keepsBut_of_remove hrest
  · obtain ⟨-, rfl⟩ := (yields_pure () u).unique hrest
    exact (Keeps.refl u).keepsBut _

/-- Where one call fails at most, a removal that fails leaves everything as it was exactly if the
record could not be removed. Otherwise the credential is gone although the removal has failed. -/
theorem answersAlike_delete_iff (honce : s.FailsAtMost 1) {guid : String} {e : CredentialError}
    (h : (service.delete guid s).answer = .error e) :
    AnswersAlike s.restored (service.delete guid s).state.restored ↔
      ∃ e, (removeRecord guid s).answer = .error e := by
  have hdelete : (removeRecord guid >>= fun _ => forget guid).Yields s (.error e)
      (service.delete guid s).state := by
    rw [← delete_eq]
    exact ⟨h, rfl⟩
  constructor
  · intro halike
    rcases hdelete.bind_cases with ⟨e, hremove, -⟩ | ⟨u, s₁, hremove, hforget⟩
    · exact ⟨e, hremove.1⟩
    -- there was a record, and it is not found any more
    rcases removeRecord_leaves honce hremove with ⟨-, hrecord, hremoves⟩ | ⟨⟨e, he⟩, -⟩
    · have hgone : (service.delete guid s).state.entries.find? (credentialKey guid) = none := by
        rw [(keepsBut_of_forget hforget).find?_eq (credentialKey_ne_defaultKey guid),
          hremoves.find?_eq (credentialKey_ne_indexKey guid), if_pos rfl]
      have hget : (get guid).Yields (service.delete guid s).state.restored
          (.error (.notFound guid)) _ :=
        (yields_load_of_none (responds_restored _) hgone).bind (yields_throw _ _)
      exact absurd (find?_of_get_eq_notFound (responds_restored s)
        ((halike.get_eq guid).symm.trans hget.1)) hrecord
    · cases he
  · rintro ⟨e', he'⟩
    rcases hdelete.bind_cases with ⟨e, hremove, -⟩ | ⟨u, s₁, hremove, -⟩
    · rcases removeRecord_leaves honce hremove with ⟨hok, -⟩ | ⟨-, hkeeps⟩
      · cases hok
      · exact (ReadsAlike.of_keeps hkeeps).answersAlike
    · rw [hremove.1] at he'
      cases he'

/-- A store with one credential that fails once to tell which one is preferred. -/
def preferenceLockedOnce : SecretStore :=
  let stored := ((Turn.set [] (.connect "work" "https://a.b" "k")).take {}).state
  { stored with
    faults := [{
      call := .retrieve, keyStart := defaultKey, error := .keyring "locked", times := some 1 }] }

theorem not_answersAlike_delete_preferenceLockedOnce :
    Reachable preferenceLockedOnce ∧ preferenceLockedOnce.FailsAtMost 1 ∧
      (service.delete (Guid.ofRandom []) preferenceLockedOnce).answer = .error (.load "locked") ∧
      ¬ AnswersAlike preferenceLockedOnce.restored
        (service.delete (Guid.ofRandom []) preferenceLockedOnce).state.restored := by
  have hreachable : Reachable preferenceLockedOnce :=
    .between (.turn (.unused fun _ _ => rfl) _ trivial) rfl fun _ _ => rfl
  have honce : preferenceLockedOnce.FailsAtMost 1 := ⟨by decide, rfl⟩
  have herror : (service.delete (Guid.ofRandom []) preferenceLockedOnce).answer =
      .error (.load "locked") := by decide +kernel
  refine ⟨hreachable, honce, herror, fun halike => ?_⟩
  -- the record could be removed
  have hremoved : (removeRecord (Guid.ofRandom []) preferenceLockedOnce).answer = .ok () := by
    decide +kernel
  obtain ⟨e, he⟩ := (answersAlike_delete_iff honce herror).1 halike
  rw [hremoved] at he
  cases he

end CredentialStore.KeyringStore
