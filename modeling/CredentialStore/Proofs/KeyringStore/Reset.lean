import CredentialStore.Proofs.KeyringStore.Holds
import CredentialStore.Proofs.KeyringStore.Reads

/-!
# What a reset removes

A reset removes the records that it can enumerate (`guids`), the index and the preference. Whatever
calls fail, one that answers has removed all of these; but where the enumeration itself fails, it
goes on with no records at all. Main statements: `exists_reset` (where no call fails, nothing is
left), `reset_cases` (what a reset that answers leaves, whatever failed) and `isEmptied_reset_iff`
(nothing is found afterwards exactly where the records were enumerated or there were none).
-/

namespace CredentialStore.KeyringStore

open Op SecretStore Text

/-- What a table finds after several records were removed. -/
def eraseRecords (entries : SortedTable String) (gs : List String) : SortedTable String :=
  gs.foldl (fun entries guid => entries.erase (credentialKey guid)) entries

theorem find?_eraseRecords_of_forall_ne {gs : List String} {key : String}
    (h : ∀ g ∈ gs, key ≠ credentialKey g) (entries : SortedTable String) :
    (eraseRecords entries gs).find? key = entries.find? key := by
  induction gs generalizing entries with
  | nil => rfl
  | cons g gs ih =>
    rw [eraseRecords, List.foldl_cons]
    refine (ih (fun x hx => h x (by simp [hx])) _).trans ?_
    rw [SortedTable.find?_erase, if_neg (h g (by simp))]

theorem find?_eraseRecords_of_mem {gs : List String} {guid : String} (h : guid ∈ gs)
    (entries : SortedTable String) :
    (eraseRecords entries gs).find? (credentialKey guid) = none := by
  induction gs generalizing entries with
  | nil => cases h
  | cons g gs ih =>
    rw [eraseRecords, List.foldl_cons]
    -- removed again later on, or here for the last time
    by_cases hmem : guid ∈ gs
    · exact ih hmem _
    · obtain rfl : guid = g := (List.mem_cons.1 h).resolve_right hmem
      refine (find?_eraseRecords_of_forall_ne (fun x hx hkey => hmem ?_) _).trans ?_
      · rwa [credentialKey_inj.1 hkey]
      · rw [SortedTable.find?_erase, if_pos rfl]

/-- All that a reset removes once it knows the records. -/
def eraseAll (entries : SortedTable String) (gs : List String) : SortedTable String :=
  ((eraseRecords entries gs).erase indexKey).erase defaultKey

theorem find?_eraseAll (entries : SortedTable String) (gs : List String) :
    (eraseAll entries gs).find? indexKey = none ∧ (eraseAll entries gs).find? defaultKey = none ∧
      (∀ guid ∈ gs, (eraseAll entries gs).find? (credentialKey guid) = none) ∧
      ∀ guid, guid ∉ gs →
        (eraseAll entries gs).find? (credentialKey guid) = entries.find? (credentialKey guid) := by
  have hrecord : ∀ guid, (eraseAll entries gs).find? (credentialKey guid) =
      (eraseRecords entries gs).find? (credentialKey guid) := fun guid => by
    rw [eraseAll, SortedTable.find?_erase, if_neg (credentialKey_ne_defaultKey guid),
      SortedTable.find?_erase, if_neg (credentialKey_ne_indexKey guid)]
  refine ⟨?_, ?_, fun guid hguid => ?_, fun guid hguid => ?_⟩
  · rw [eraseAll, SortedTable.find?_erase, if_neg (by decide), SortedTable.find?_erase, if_pos rfl]
  · rw [eraseAll, SortedTable.find?_erase, if_pos rfl]
  · rw [hrecord, find?_eraseRecords_of_mem hguid]
  · rw [hrecord, find?_eraseRecords_of_forall_ne]
    exact fun g hg hkey => hguid (by rwa [credentialKey_inj.1 hkey])

theorem find?_eraseRecords_congr {entries entries' : SortedTable String} {key : String}
    (h : entries'.find? key = entries.find? key) (gs : List String) :
    (eraseRecords entries' gs).find? key = (eraseRecords entries gs).find? key := by
  induction gs generalizing entries entries' with
  | nil => exact h
  | cons g gs ih =>
    rw [eraseRecords, eraseRecords, List.foldl_cons, List.foldl_cons]
    exact ih (by rw [SortedTable.find?_erase, SortedTable.find?_erase, h])

/-- What is found under a key afterwards depends on what was found there alone. -/
theorem find?_eraseAll_congr {entries entries' : SortedTable String} {key : String}
    (h : entries'.find? key = entries.find? key) (gs : List String) :
    (eraseAll entries' gs).find? key = (eraseAll entries gs).find? key := by
  rw [eraseAll, eraseAll, SortedTable.find?_erase, SortedTable.find?_erase,
    SortedTable.find?_erase, SortedTable.find?_erase, find?_eraseRecords_congr h]

/-- A store that responds and has none of the keys holds nothing. -/
theorem holds_nothing {s : SecretStore} (hs : s.Responds)
    (hrecords : ∀ guid, s.entries.find? (credentialKey guid) = none)
    (hindex : s.entries.find? indexKey = none) (hdefault : s.entries.find? defaultKey = none) :
    Holds s {} := by
  refine ⟨hs, ⟨fun {guid text} => ?_, fun _ => ⟨.empty, ?_, fun {guid name} => ?_⟩⟩, ?_⟩
  · rw [hrecords guid]
    simp
  · rw [storedIndex, hindex]
  · constructor
    · intro hname
      cases hname
    · rintro ⟨c, hc, -⟩
      cases hc
  · rw [hdefault]
    rfl

/-! ## Where no call fails -/

theorem yields_removeAll {s : SecretStore} (hs : s.Responds) (gs : List String) :
    (gs.forM fun guid => discard (remove (credentialKey guid)) : Op SecretStore Unit).Yields s
      (.ok ()) { s with entries := eraseRecords s.entries gs } := by
  induction gs generalizing s with
  | nil => exact yields_pure () s
  | cons g gs ih => exact (yields_remove hs (credentialKey g)).discard.bind (ih (hs.with_entries _))

/-- A reset removes what is enumerated, the index and the preference; where nothing can be
enumerated, only the latter two. -/
theorem yields_reset {s : SecretStore} (hs : s.Responds) {r : Except CredentialError (List String)}
    (hguids : guids.Yields s r s) :
    reset.Yields s (.ok {}) { s with entries := eraseAll s.entries (r.toOption.getD []) } := by
  have hrest : ∀ gs : List String, Yields (do
      gs.forM fun guid => discard (remove (credentialKey guid))
      discard (remove indexKey)
      discard (remove defaultKey)
      Op.warn (.keyringReset gs.length)
      return {}) s (.ok ({} : ResetOutcome)) { s with entries := eraseAll s.entries gs } := by
    intro gs
    have hrecords := yields_removeAll hs gs
    have hs₁ := hs.with_entries (eraseRecords s.entries gs)
    have hindex := (yields_remove hs₁ indexKey).discard
    have hs₂ := hs₁.with_entries ((eraseRecords s.entries gs).erase indexKey)
    have hdefault := (yields_remove hs₂ defaultKey).discard
    exact hrecords.bind (hindex.bind (hdefault.bind ((yields_warn _ _).bind (yields_pure _ _))))
  cases r with
  | ok gs => exact hguids.attempt.bind (hrest gs)
  | error e =>
    exact hguids.attempt.bind ((yields_warn _ s).bind ((yields_pure [] s).bind (hrest [])))

/-- A reset leaves nothing of what a store held. -/
theorem exists_reset {s : SecretStore} {l : Ledger} (h : Holds s l)
    (hv : Ledger.Valid l.credentials) :
    ∃ t, reset.Yields s (.ok {}) t ∧ Holds t {} := by
  obtain ⟨gs, hguids, hperm⟩ := exists_guids h hv
  refine ⟨_, yields_reset h.responds hguids, ?_⟩
  -- a record would be one of a credential, and those have been enumerated
  obtain ⟨hindexed, hpreferred, hin, hout⟩ := find?_eraseAll s.entries gs
  refine holds_nothing (h.responds.with_entries _) (fun guid => ?_) hindexed hpreferred
  by_cases hguid : guid ∈ gs
  · exact hin guid hguid
  · refine (hout guid hguid).trans ?_
    cases htext : s.entries.find? (credentialKey guid) with
    | none => rfl
    | some text =>
      obtain ⟨c, hc, hcguid, -⟩ := h.keeps.record_iff.1 htext
      exact absurd (hperm.mem_iff.2 (List.mem_map.2 ⟨c, hc, hcguid⟩)) hguid

variable {s t : SecretStore}

/-! ## Removing, whatever fails -/

theorem keeps_of_removedAll {gs : List String}
    (h : (gs.forM fun guid => discard (remove (credentialKey guid)) : Op SecretStore Unit).Yields s
      (.ok ()) t) :
    ({ s with entries := eraseRecords s.entries gs } : SecretStore).Keeps t := by
  -- on the identifiers: each removal that answers has removed one more record
  induction gs generalizing s with
  | nil =>
    obtain ⟨-, rfl⟩ := h
    exact .refl s
  | cons g gs ih =>
    obtain ⟨u, s₁, hremove, hrest⟩ := Yields.bind_ok (x := discard (remove (credentialKey g))) h
    obtain ⟨hentries, hlisting⟩ := keeps_of_removed hremove
    obtain ⟨hentries', hlisting'⟩ := ih hrest
    refine ⟨hentries'.trans ?_, hlisting'.trans hlisting⟩
    show eraseRecords s₁.entries gs = _
    rw [hentries]
    rfl

/-- What a reset that answers has removed: what was enumerated, the index and the preference. -/
theorem reset_cases {outcome : ResetOutcome} (h : reset.Yields s (.ok outcome) t) :
    ∃ found, ((guids s).answer = .ok found ∨ (∃ e, (guids s).answer = .error e) ∧ found = []) ∧
      ({ s with entries := eraseAll s.entries found } : SecretStore).Keeps t := by
  -- once it is known what was enumerated, every removal has to answer
  have hrest : ∀ {found : List String} {s₁ : SecretStore}, s.Keeps s₁ → Yields (do
      found.forM fun guid => discard (remove (credentialKey guid))
      discard (remove indexKey)
      discard (remove defaultKey)
      Op.warn (.keyringReset found.length)
      return {}) s₁ (.ok outcome) t →
      ({ s with entries := eraseAll s.entries found } : SecretStore).Keeps t := by
    intro found s₁ hkeeps h
    obtain ⟨u₁, s₂, hrecords, h⟩ := h.bind_ok
    obtain ⟨u₂, s₃, hindex, h⟩ := h.bind_ok
    obtain ⟨u₃, s₄, hdefault, h⟩ := h.bind_ok
    obtain ⟨-, rfl⟩ := (yields_pure _ s₄).unique (h.of_bind (yields_warn _ s₄))
    have h₁ := keeps_of_removedAll hrecords
    have h₂ := keeps_of_removed hindex
    have h₃ := keeps_of_removed hdefault
    refine ⟨?_, ((h₃.listing_eq.trans h₂.listing_eq).trans h₁.listing_eq).trans hkeeps.listing_eq⟩
    rw [show s₄.entries = _ from h₃.entries_eq]
    show s₃.entries.erase defaultKey = _
    rw [show s₃.entries = _ from h₂.entries_eq]
    show (s₂.entries.erase indexKey).erase defaultKey = _
    rw [show s₂.entries = _ from h₁.entries_eq]
    show ((eraseRecords s₁.entries found).erase indexKey).erase defaultKey = _
    rw [hkeeps.entries_eq]
    rfl
  obtain ⟨r, s₁, hguids, h⟩ := h.of_bind_attempt
  have hkeeps := (guids_cases hguids).1
  cases r with
  | ok gs =>
    exact ⟨gs, .inl hguids.1, hrest hkeeps (Yields.of_bind (x := pure gs) h (yields_pure gs s₁))⟩
  | error e =>
    -- the reset goes on with no records at all
    have h := Yields.of_bind (x := Op.warn (.enumerationFailed e)) h (yields_warn _ s₁)
    have h := Yields.of_bind (x := pure []) h (yields_pure [] s₁)
    exact ⟨[], .inr ⟨⟨e, hguids.1⟩, rfl⟩, hrest hkeeps h⟩

/-! ## What is found afterwards -/

/-- Nothing is found: no credential is listed or preferred, and every identifier is unknown. -/
structure IsEmptied (s : SecretStore) : Prop where
  list_eq : (service.list s).answer = .ok []
  defaultServer_eq : (service.defaultServer s).answer = .ok none
  get_eq : ∀ guid, (service.get guid s).answer = .error (.notFound guid)

theorem Holds.isEmptied (h : Holds s {}) : IsEmptied s := by
  have hv := Ledger.valid_nil
  constructor
  · obtain ⟨cs, hload, hperm⟩ := exists_loadAll h hv
    rw [← List.perm_nil.1 hperm]
    exact hload.1
  · have hdefault : defaultServer.Yields s (.ok none) s :=
      (yields_defaultGuid h).bind (yields_pure none s)
    exact hdefault.1
  · exact fun guid => ((yields_load h hv guid).bind (yields_throw _ s)).1

/-- A text that cannot be decoded is no unknown identifier. -/
theorem decode_ne_notFound (guid text : String) : decode guid text ≠ .error (.notFound guid) := by
  intro h
  rw [decode] at h
  split at h
  · cases h
  · split at h
    · rw [Record.toCredential, checkVersion] at h
      grind
    · cases h

/-- An identifier that is unknown has no record. -/
theorem find?_of_get_eq_notFound (hs : s.Responds) {guid : String}
    (h : (get guid s).answer = .error (.notFound guid)) :
    s.entries.find? (credentialKey guid) = none := by
  -- a record would be answered with a credential, or with another error
  cases htext : s.entries.find? (credentialKey guid) with
  | none => rfl
  | some text =>
    have hload := yields_load_of_some hs htext
    cases hdecode : decode guid text with
    | ok c =>
      rw [hdecode] at hload
      have hget : (get guid).Yields s (.ok c) s := hload.bind (yields_pure c s)
      rw [hget.1] at h
      cases h
    | error e =>
      rw [hdecode] at hload
      have hget : (get guid).Yields s (.error e) s := hload.bind_error
      rw [hget.1] at h
      cases h
      exact absurd hdecode (decode_ne_notFound guid text)

/-- Every record can be enumerated: it has a place in the index, where keys cannot be listed. -/
def IsIndexed (s : SecretStore) : Prop :=
  s.listing = false → ∃ index, storedIndex s.entries = some index ∧
    ∀ guid, s.entries.find? (credentialKey guid) ≠ none → guid ∈ index.keys

/-- An enumeration that answers has found every record. -/
theorem mem_of_guids_eq_ok (h : IsIndexed s) {gs : List String}
    (hguids : (guids s).answer = .ok gs) {guid : String}
    (hrecord : s.entries.find? (credentialKey guid) ≠ none) : guid ∈ gs := by
  have hlisted : IsListed s guid := by
    refine ⟨hrecord, fun hlisting => ?_⟩
    obtain ⟨index, hstored, hmem⟩ := h hlisting
    exact ⟨index, hstored, hmem guid hrecord⟩
  exact ((isListed_iff_mem_guids ⟨hguids, rfl⟩).1 hlisted).1

/-- Whatever calls failed, nothing is found after a reset that answered, as soon as calls succeed
again, exactly where the records were enumerated or there were none. -/
theorem isEmptied_reset_iff {outcome : ResetOutcome}
    (hreset : (service.reset s).answer = .ok outcome) (hindexed : IsIndexed s) :
    IsEmptied (service.reset s).state.restored ↔
      (∃ gs, (guids s).answer = .ok gs) ∨
        ∀ guid, s.entries.find? (credentialKey guid) = none := by
  obtain ⟨found, hfound, hkeeps⟩ := reset_cases ⟨hreset, rfl⟩
  have hentries : (service.reset s).state.restored.entries = eraseAll s.entries found :=
    hkeeps.entries_eq
  have hresponds := responds_restored (service.reset s).state
  obtain ⟨hindex, hdefault, hin, hout⟩ := find?_eraseAll s.entries found
  -- forwards: a record that was not enumerated is still there and would be found;
  -- backwards: all records have been removed, with the index and the preference
  constructor
  · intro hempty
    rcases hfound with hok | ⟨-, rfl⟩
    · exact .inl ⟨found, hok⟩
    · refine .inr fun guid => ?_
      have hnone := find?_of_get_eq_notFound hresponds (hempty.get_eq guid)
      rwa [hentries, hout guid (by simp)] at hnone
  · intro h
    refine Holds.isEmptied (holds_nothing hresponds (fun guid => ?_) ?_ ?_)
    · rw [hentries]
      by_cases hguid : guid ∈ found
      · exact hin guid hguid
      · rw [hout guid hguid]
        rcases h with ⟨gs, hgs⟩ | hnone
        · -- what answers the enumeration is what was removed
          have hok : (guids s).answer = .ok found := by
            rcases hfound with hok | ⟨⟨e, he⟩, -⟩
            · exact hok
            · rw [hgs] at he
              cases he
          exact Classical.not_not.1 fun hrecord =>
            hguid (mem_of_guids_eq_ok hindexed hok hrecord)
        · exact hnone guid
    · rw [hentries, hindex]
    · rw [hentries, hdefault]

/-- A store with a record that fails to list its keys once. -/
def unlistedOnce : SecretStore where
  entries := SortedTable.empty.insert (credentialKey "g") "text"
  faults := [{ call := .list, keyStart := "", error := .keyring "locked", times := some 1 }]

theorem not_isEmptied_reset_unlistedOnce :
    (service.reset unlistedOnce).answer = .ok {} ∧
      ¬ IsEmptied (service.reset unlistedOnce).state.restored := by
  have hreset : (service.reset unlistedOnce).answer = .ok {} := by rfl
  refine ⟨hreset, fun hempty => ?_⟩
  -- the enumeration failed, and there is a record
  rcases (isEmptied_reset_iff hreset (fun h => nomatch h)).1 hempty with ⟨gs, hgs⟩ | hnone
  · cases hgs
  · have h := hnone "g"
    rw [unlistedOnce, SortedTable.find?_insert, if_pos rfl] at h
    cases h

end CredentialStore.KeyringStore
