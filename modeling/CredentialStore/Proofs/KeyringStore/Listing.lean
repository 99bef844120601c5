import CredentialStore.Proofs.KeyringStore.Alike

/-!
# What a keyring lists

In a secret store that responds, whatever texts it has, listing is a function of the texts: the
identifiers are enumerated and each record is decoded. Nothing is assumed of the store, so an index
may be out of step, records may be broken or stand beside the index, and listing may fail; writes
are told by what was listed before them.

Main statements: `yields_listed` (listing is the function `listed`), `listed_of_enters` (a
credential that was entered joins the list), `exists_set` and `exists_forceSet` (what a write comes
to).
-/

namespace CredentialStore

theorem Record.isUnreadable_of_toCredential {r : Record} {e : CredentialError}
    (h : r.toCredential = .error e) : e.isUnreadable = true := by
  rw [toCredential] at h
  split at h
  · rename_i hversion
    cases h
    exact isUnreadable_of_checkVersion hversion
  · split at h
    · cases h
      rfl
    · split at h
      · cases h
        rfl
      · cases h

namespace KeyringStore

open Op SecretStore

variable {s t : SecretStore}

/-! ## Listing as a function -/

/-- The identifiers that are enumerated. -/
def enumerated (s : SecretStore) : Except CredentialError (List String) :=
  if s.listing then .ok (recordGuids s.entries)
  else match storedIndex s.entries with
    | some index => .ok index.keys
    | none => .error (.corrupted "credential index")

/-- The credential of the record with an identifier, if there is a record. -/
def recordAt (s : SecretStore) (guid : String) : Except CredentialError (Option Credential) :=
  match s.entries.find? (credentialKey guid) with
  | none => .ok none
  | some text => (decode guid text).map some

/-- The credentials of the records with the identifiers of a list. -/
def collected (s : SecretStore) : List String → Except CredentialError (List Credential)
  | [] => .ok []
  | guid :: rest =>
    match recordAt s guid with
    | .error e => .error e
    | .ok c? => (collected s rest).map fun cs => c?.toList ++ cs

/-- What is listed. -/
def listed (s : SecretStore) : Except CredentialError (List Credential) :=
  match enumerated s with
  | .error e => .error e
  | .ok gs => collected s gs

section Responds

variable (h : s.Responds)

include h

theorem yields_guids : guids.Yields s (enumerated s) s := by
  rw [enumerated]
  by_cases hlisting : s.listing = true
  · rw [if_pos hlisting]
    exact yields_guids_of_listing h hlisting
  rw [if_neg hlisting]
  cases hstored : storedIndex s.entries with
  | some index => exact yields_guids_of_index h (by simpa using hlisting) hstored
  | none =>
    refine (yields_canList s).bind ?_
    rw [if_neg hlisting]
    refine Yields.bind_error ((yields_read h indexKey).bind ?_)
    -- without an index there would be an empty one, so there is one that cannot be read
    rw [storedIndex] at hstored
    cases htext : s.entries.find? indexKey with
    | none =>
      rw [htext] at hstored
      cases hstored
    | some text =>
      rw [htext] at hstored
      dsimp only at hstored ⊢
      rw [hstored]
      exact yields_throw _ s

theorem yields_load_at (guid : String) : (load guid).Yields s (recordAt s guid) s := by
  rw [recordAt]
  cases htext : s.entries.find? (credentialKey guid) with
  | none => exact yields_load_of_none h htext
  | some text => exact yields_load_of_some h htext

theorem yields_collected (gs : List String) : (loadEach gs).Yields s (collected s gs) s := by
  induction gs with
  | nil => exact yields_pure [] s
  | cons guid rest ih =>
    have hload := yields_load_at h guid
    rw [collected]
    cases hrecord : recordAt s guid with
    | error e =>
      rw [hrecord] at hload
      exact hload.bind_error
    | ok c? =>
      rw [hrecord] at hload
      refine hload.bind ?_
      cases c? with
      | none =>
        refine (yields_warn _ s).bind ?_
        dsimp only
        cases hrest : collected s rest <;> rwa [hrest] at ih
      | some c =>
        dsimp only
        cases hrest : collected s rest with
        | error e =>
          rw [hrest] at ih
          exact ih.bind_error
        | ok cs =>
          rw [hrest] at ih
          exact ih.bind (yields_pure (c :: cs) s)

theorem yields_listed : loadAll.Yields s (listed s) s := by
  have hguids := yields_guids h
  rw [listed]
  cases henumerated : enumerated s with
  | error e =>
    rw [henumerated] at hguids
    exact hguids.bind_error
  | ok gs =>
    rw [henumerated] at hguids
    exact hguids.bind (yields_collected h gs)

end Responds

/-- A list that was collected: every record that was looked at can be decoded. -/
theorem collected_eq_ok_iff {gs : List String} {cs : List Credential} :
    collected s gs = .ok cs ↔
      (∀ guid ∈ gs, s.entries.find? (credentialKey guid) ≠ none →
        recordOf? s.entries guid ≠ none) ∧ gs.filterMap (recordOf? s.entries) = cs := by
  -- no call is made, so it may be read off a store in which none fails
  have hcollected : collected s gs = collected s.restored gs := by
    induction gs with
    | nil => rfl
    | cons guid rest ih =>
      rw [collected, collected, ih]
      rfl
  have hs := responds_restored s
  rw [hcollected]
  constructor
  · intro h
    have hload := yields_collected hs gs
    rw [h] at hload
    obtain ⟨-, ⟨heq, hreadable⟩ | ⟨e, he⟩⟩ := loadEach_cases hload
    · exact ⟨hreadable, (Except.ok.inj heq).symm⟩
    · cases he
  · rintro ⟨hreadable, rfl⟩
    exact ((yields_collected hs gs).unique (yields_loadEach_of_readable hs hreadable)).1

theorem listed_eq_ok_iff {cs : List Credential} :
    listed s = .ok cs ↔ ∃ gs, enumerated s = .ok gs ∧ collected s gs = .ok cs := by
  rw [listed]
  cases enumerated s with
  | error e => exact ⟨nofun, fun ⟨_, he, _⟩ => nomatch he⟩
  | ok gs =>
    refine ⟨fun h => ⟨gs, rfl, h⟩, fun ⟨gs', hgs, h⟩ => ?_⟩
    cases hgs
    exact h

/-- What is listed depends on what is enumerated and on the records of that. -/
theorem listed_congr (henumerated : enumerated t = enumerated s)
    (hrecords : ∀ gs, enumerated s = .ok gs → ∀ guid ∈ gs,
      t.entries.find? (credentialKey guid) = s.entries.find? (credentialKey guid)) :
    listed t = listed s := by
  have hcollected : ∀ gs, (∀ guid ∈ gs,
      t.entries.find? (credentialKey guid) = s.entries.find? (credentialKey guid)) →
      collected t gs = collected s gs := by
    intro gs
    induction gs with
    | nil => exact fun _ => rfl
    | cons guid rest ih =>
      intro h
      rw [collected, collected, recordAt, recordAt, h guid List.mem_cons_self,
        ih fun g hg => h g (List.mem_cons_of_mem guid hg)]
  rw [listed, listed, henumerated]
  cases hgs : enumerated s with
  | error e => rfl
  | ok gs => exact hcollected gs (hrecords gs hgs)

/-- Texts under other keys are not listed. -/
theorem listed_eq_of_find?_eq (hlisting : t.listing = s.listing)
    (hrecords : ∀ guid, t.entries.find? (credentialKey guid) = s.entries.find? (credentialKey guid))
    (hindex : t.entries.find? indexKey = s.entries.find? indexKey) : listed t = listed s := by
  refine listed_congr ?_ fun gs _ guid _ => hrecords guid
  have hguids : recordGuids t.entries = recordGuids s.entries :=
    recordGuids_eq_of_mem_iff (recordGuids_ascending _) fun guid => by
      rw [mem_recordGuids_iff, hrecords]
  rw [enumerated, enumerated, hlisting, hguids, storedIndex_congr hindex]

/-- Identifiers are enumerated in ascending order. -/
theorem ascending_of_enumerated {gs : List String} (h : enumerated s = .ok gs) :
    gs.Pairwise (· < ·) := by
  rw [enumerated] at h
  split at h
  · cases h
    exact recordGuids_ascending s.entries
  · split at h
    · rename_i index hstored
      cases h
      exact index.keys_ascending
    · cases h

/-- No identifier is enumerated twice. -/
theorem nodup_of_enumerated {gs : List String} (h : enumerated s = .ok gs) : gs.Nodup := by
  refine (ascending_of_enumerated h).imp fun {a b} hlt => ?_
  rintro rfl
  exact String.lt_irrefl a hlt

/-- A record with an identifier tells a credential with it. -/
theorem guid_of_decode {guid text : String} {c : Credential} (hguid : guid ≠ "")
    (h : decode guid text = .ok c) : c.guid = guid := by
  rw [decode] at h
  split at h
  · cases h
  · rename_i r hread
    split at h
    · rename_i hr
      subst hr
      rw [Record.toCredential] at h
      split at h
      · cases h
      · split at h
        · cases h
        · split at h
          · cases h
          · -- the data has no identifier, or the same one
            rename_i d _ hsame
            split at h
            · cases h
              rfl
            · rename_i hd
              cases h
              exact Classical.byContradiction fun hne => hsame ⟨hd, hguid, hne⟩
    · cases h

theorem guid_of_recordOf? {guid : String} {c : Credential} (hguid : guid ≠ "")
    (h : recordOf? s.entries guid = some c) : c.guid = guid := by
  obtain ⟨text, -, hdecode⟩ := recordOf?_eq_some_iff.1 h
  exact guid_of_decode hguid hdecode

theorem isUnreadable_of_decode {guid text : String} {e : CredentialError}
    (h : decode guid text = .error e) : e.isUnreadable = true := by
  rw [decode] at h
  split at h
  · cases h
    rfl
  · split at h
    · exact Record.isUnreadable_of_toCredential h
    · cases h
      rfl

/-- Listing fails only because something cannot be read. -/
theorem isUnreadable_of_listed {e : CredentialError} (h : listed s = .error e) :
    e.isUnreadable = true := by
  rw [listed, enumerated] at h
  have hcollected : ∀ gs, collected s gs = .error e → e.isUnreadable = true := by
    intro gs
    induction gs with
    | nil => exact nofun
    | cons guid rest ih =>
      intro h
      rw [collected] at h
      cases hrecord : recordAt s guid with
      | error e' =>
        rw [hrecord] at h
        cases h
        rw [recordAt] at hrecord
        split at hrecord
        · cases hrecord
        · rename_i text _
          cases hdecode : decode guid text with
          | ok d =>
            rw [hdecode] at hrecord
            cases hrecord
          | error e' =>
            rw [hdecode] at hrecord
            cases hrecord
            exact isUnreadable_of_decode hdecode
      | ok c? =>
        rw [hrecord] at h
        cases hrest : collected s rest with
        | error e' =>
          rw [hrest] at h
          cases h
          exact ih hrest
        | ok cs =>
          rw [hrest] at h
          cases h
  split at h
  · rename_i e' henumerated
    split at henumerated
    · cases henumerated
    · split at henumerated
      · cases henumerated
      · cases henumerated
        cases h
        rfl
  · exact hcollected _ h

/-! ## Writes -/

variable {c : Credential}

/-- Entering a credential adds its identifier to those that are enumerated, if it is missing. -/
theorem enumerated_of_enters {gs : List String} (h : enumerated s = .ok gs)
    (henters : Enters c (withRecord s c) t) :
    ∃ gs', enumerated t = .ok gs' ∧ ∀ guid, guid ∈ gs' ↔ guid ∈ gs ∨ c.guid = guid := by
  have hlisting : t.listing = s.listing := henters.listing_eq
  rw [enumerated] at h
  rw [enumerated, hlisting]
  by_cases hs : s.listing = true
  · rw [if_pos hs] at h ⊢
    cases h
    refine ⟨_, rfl, fun guid => ?_⟩
    rw [mem_recordGuids_iff, mem_recordGuids_iff, henters.find?_eq (credentialKey_ne_indexKey guid),
      find?_withRecord]
    by_cases hguid : c.guid = guid
    · rw [if_pos (by rw [hguid])]
      exact ⟨fun _ => .inr hguid, fun _ => ⟨_, rfl⟩⟩
    · rw [if_neg (mt credentialKey_inj.1 hguid)]
      exact ⟨.inl, fun hor => hor.resolve_right hguid⟩
  · rw [if_neg hs] at h ⊢
    obtain ⟨index, index', hstored, hstored', hfind⟩ :=
      henters.exists_index (by simpa [withRecord] using hs)
    rw [storedIndex_withRecord] at hstored
    rw [hstored] at h
    rw [hstored']
    cases h
    refine ⟨_, rfl, fun guid => ?_⟩
    rw [SortedTable.mem_keys_iff, SortedTable.mem_keys_iff, hfind]
    by_cases hguid : c.guid = guid
    · rw [if_pos hguid]
      exact ⟨fun _ => .inr hguid, fun _ => ⟨_, rfl⟩⟩
    · rw [if_neg hguid]
      exact ⟨.inl, fun hor => hor.resolve_right hguid⟩

section Unlisted

variable {cs : List Credential} {gs : List String} (h : listed s = .ok cs)
  (hgs : enumerated s = .ok gs) (hguid : c.guid ≠ "") (hunused : ∀ x ∈ cs, x.guid ≠ c.guid)

include h hgs hguid hunused

/-- An identifier that is enumerated but not listed has no record. -/
theorem find?_eq_none_of_unlisted (hc : c.guid ∈ gs) :
    s.entries.find? (credentialKey c.guid) = none := by
  obtain ⟨gs', hgs', hcs⟩ := listed_eq_ok_iff.1 h
  cases hgs.symm.trans hgs'
  obtain ⟨hreadable, rfl⟩ := collected_eq_ok_iff.1 hcs
  -- the credential of a record would be listed
  refine Classical.byContradiction fun hne => ?_
  obtain ⟨x, hfound⟩ := Option.ne_none_iff_exists'.1 (hreadable c.guid hc hne)
  exact hunused x (List.mem_filterMap.2 ⟨c.guid, hc, hfound⟩) (guid_of_recordOf? hguid hfound)

/-- Where the record of a credential is put and its identifier is enumerated, the credential joins
the list. -/
theorem listed_of_record {gs' : List String} (hgs' : enumerated t = .ok gs')
    (hmem : ∀ guid, guid ∈ gs' ↔ guid ∈ gs ∨ c.guid = guid)
    (hrecords : ∀ guid, t.entries.find? (credentialKey guid) =
      (withRecord s c).entries.find? (credentialKey guid)) :
    ∃ cs', listed t = .ok cs' ∧ cs'.Perm (cs ++ [c]) := by
  have hnone := find?_eq_none_of_unlisted h hgs hguid hunused
  obtain ⟨gs₀, hgs₀, hcs⟩ := listed_eq_ok_iff.1 h
  cases hgs.symm.trans hgs₀
  obtain ⟨hreadable, rfl⟩ := collected_eq_ok_iff.1 hcs
  have hrecord : ∀ guid, recordOf? t.entries guid =
      if c.guid = guid then some c else recordOf? s.entries guid := fun guid => by
    rw [← recordOf?_withRecord]
    exact recordOf?_congr (hrecords guid)
  refine ⟨gs'.filterMap (recordOf? t.entries), listed_eq_ok_iff.2 ⟨gs', hgs',
    collected_eq_ok_iff.2 ⟨fun guid hg hfind => ?_, rfl⟩⟩, ?_⟩
  · rw [hrecord]
    split
    · exact Option.some_ne_none c
    · rename_i hne
      refine hreadable guid (((hmem guid).1 hg).resolve_right hne) ?_
      rwa [hrecords, find?_withRecord, if_neg (mt credentialKey_inj.1 hne)] at hfind
  · -- the identifiers afterwards are those before, without the new one, and the new one
    have hperm : gs'.Perm (gs.filter (· ≠ c.guid) ++ [c.guid]) := by
      refine (List.perm_ext_iff_of_nodup (nodup_of_enumerated hgs') ?_).2 fun guid => ?_
      · refine List.nodup_append.2 ⟨(nodup_of_enumerated hgs).filter _, List.nodup_singleton _, ?_⟩
        rintro a ha b hb rfl
        rw [List.mem_singleton.1 hb] at ha
        simpa using (List.mem_filter.1 ha).2
      · rw [hmem, List.mem_append, List.mem_filter, List.mem_singleton]
        by_cases heq : c.guid = guid
        · simp [heq]
        · simp [heq, Ne.symm heq]
    have hbefore : (gs.filter (· ≠ c.guid)).filterMap (recordOf? t.entries) =
        gs.filterMap (recordOf? s.entries) := by
      rw [List.filterMap_filter]
      refine List.filterMap_congr fun guid hg => ?_
      rw [hrecord]
      by_cases heq : guid = c.guid
      · subst heq
        simp [recordOf?, hnone hg]
      · simp [heq, Ne.symm heq]
    have hlast : [c.guid].filterMap (recordOf? t.entries) = [c] := by
      simp [hrecord]
    calc gs'.filterMap (recordOf? t.entries)
        |>.Perm ((gs.filter (· ≠ c.guid) ++ [c.guid]).filterMap (recordOf? t.entries)) :=
          hperm.filterMap _
      _ = gs.filterMap (recordOf? s.entries) ++ [c] := by
          rw [List.filterMap_append, hbefore, hlast]

end Unlisted

/-- A credential that was entered under a new identifier joins the list. -/
theorem listed_of_enters {cs : List Credential} (h : listed s = .ok cs)
    (henters : Enters c (withRecord s c) t) (hguid : c.guid ≠ "")
    (hunused : ∀ x ∈ cs, x.guid ≠ c.guid) :
    ∃ cs', listed t = .ok cs' ∧ cs'.Perm (cs ++ [c]) := by
  obtain ⟨gs, hgs, -⟩ := listed_eq_ok_iff.1 h
  obtain ⟨gs', hgs', hmem⟩ := enumerated_of_enters hgs henters
  exact listed_of_record h hgs hguid hunused hgs' hmem fun guid =>
    henters.find?_eq (credentialKey_ne_indexKey guid)

/-- A write that has answered has entered the credential, and one that has failed has left the store
as it was. -/
def Wrote (s : SecretStore) (r : Except CredentialError Credential) (t : SecretStore) : Prop :=
  t.Responds ∧ match r with
    | .ok c => Enters c (withRecord s c) t
    | .error _ => t = s

/-- What a write answers: it fails as listing does, or is held against what is listed. -/
def answered (s : SecretStore) (write : Ledger → Except CredentialError Credential × Ledger) :
    Except CredentialError Credential :=
  match listed s with
  | .error e => .error e
  | .ok cs => (write { credentials := cs }).1

/-- What has been written was held against what is listed. -/
theorem exists_listed_of_answered {write : Ledger → Except CredentialError Credential × Ledger}
    (h : answered s write = .ok c) :
    ∃ cs, listed s = .ok cs ∧ (write { credentials := cs }).1 = .ok c := by
  rw [answered] at h
  cases hlisted : listed s with
  | error e =>
    rw [hlisted] at h
    cases h
  | ok cs =>
    rw [hlisted] at h
    exact ⟨cs, rfl, h⟩

/-- A write that must not conflict has failed, or entered a credential with an identifier that was
not listed. -/
theorem Wrote.set_cases {fresh : String} {details : Details}
    (h : Wrote s (answered s (·.set fresh details)) t) :
    (∃ e, answered s (·.set fresh details) = .error e ∧ t = s) ∨
      ∃ cs c, answered s (·.set fresh details) = .ok c ∧ listed s = .ok cs ∧
        details.toCredential fresh = .ok c ∧ (∀ x ∈ cs, x.guid ≠ c.guid) ∧
        Enters c (withRecord s c) t := by
  obtain ⟨-, h⟩ := h
  cases hanswered : answered s (·.set fresh details) with
  | error e =>
    rw [hanswered] at h
    exact .inl ⟨e, rfl, h⟩
  | ok c =>
    rw [hanswered] at h
    obtain ⟨cs, hlisted, hset⟩ := exists_listed_of_answered hanswered
    rcases Ledger.set_cases { credentials := cs } fresh details with
      ⟨e, heq⟩ | ⟨c', hd, -, hunused, heq⟩
    · rw [heq] at hset
      cases hset
    · rw [heq] at hset
      cases hset
      exact .inr ⟨cs, c, rfl, hlisted, hd, hunused, h⟩

section Responds

variable (h : s.Responds)

include h

theorem isIndexReadable_of_listed {cs : List Credential} (hlisted : listed s = .ok cs) :
    IsIndexReadable s := by
  have hload := yields_listed h
  rw [hlisted] at hload
  exact isIndexReadable_of_loadAll hload

theorem exists_set (fresh : String) (details : Details) :
    ∃ t, (set fresh details).Yields s (answered s (·.set fresh details)) t ∧
      Wrote s (answered s (·.set fresh details)) t := by
  have hload := yields_listed h
  rw [answered]
  cases hlisted : listed s with
  | error e =>
    rw [hlisted] at hload
    exact ⟨s, hload.bind_error, h, rfl⟩
  | ok cs =>
    rw [hlisted] at hload
    dsimp only
    -- each check is made against the list
    cases hd : details.toCredential fresh with
    | error e =>
      rw [Ledger.set_of_invalid hd]
      exact ⟨s, hload.bind (.bind_error ⟨hd, rfl⟩), h, rfl⟩
    | ok c =>
      cases hcheck : Credential.checkAll cs c with
      | error e =>
        rw [Ledger.set_of_conflict hd hcheck]
        exact ⟨s, hload.bind (.bind ⟨hd, rfl⟩ (.bind_error ⟨hcheck, rfl⟩)), h, rfl⟩
      | ok u =>
        by_cases hany : cs.any (·.guid == c.guid) = true
        · rw [Ledger.set_of_used hd hcheck hany]
          refine ⟨s, hload.bind (.bind ⟨hd, rfl⟩ (.bind ⟨hcheck, rfl⟩ ?_)), h, rfl⟩
          rw [if_pos hany]
          exact yields_throw _ s
        · rw [Ledger.set_of_unused hd hcheck hany]
          obtain ⟨t, hpersist, ht, henters⟩ :=
            persist_of_responds h (isIndexReadable_of_listed h hlisted) c none
          refine ⟨t, hload.bind (.bind ⟨hd, rfl⟩ (.bind ⟨hcheck, rfl⟩ ?_)), ht, henters⟩
          rw [if_neg hany]
          exact hpersist.bind (yields_pure c t)

theorem exists_forceSet (fresh : String) (details : Details) :
    ∃ t, (forceSet fresh details).Yields s (answered s (·.forceSet fresh details)) t ∧
      Wrote s (answered s (·.forceSet fresh details)) t := by
  have hload := yields_listed h
  rw [answered]
  cases hlisted : listed s with
  | error e =>
    rw [hlisted] at hload
    exact ⟨s, hload.bind_error, h, rfl⟩
  | ok cs =>
    rw [hlisted] at hload
    dsimp only
    cases hd : details.toCredential fresh with
    | error e =>
      rw [Ledger.forceSet_of_invalid hd]
      exact ⟨s, hload.bind (.bind_error ⟨hd, rfl⟩), h, rfl⟩
    | ok candidate =>
      rw [Ledger.forceSet_of_valid hd]
      -- whatever is replaced, the successor is written
      obtain ⟨t, hpersist, ht, henters⟩ := persist_of_responds h
        (isIndexReadable_of_listed h hlisted) (Ledger.successor cs candidate)
        (cs.find? (·.name == candidate.name))
      exact ⟨t, hload.bind (.bind ⟨hd, rfl⟩ (.bind (yields_forM_warn _ s)
        (hpersist.bind (yields_pure _ t)))), ht, henters⟩

end Responds

end KeyringStore

end CredentialStore
