import CredentialStore.Proofs.KeyringStore.Legacy
import CredentialStore.Proofs.KeyringStore.Listing
import CredentialStore.Proofs.KeyringStore.Reset

/-!
# A keyring that starts anew

A reset removes the records that it can enumerate. Where keys cannot be listed, records that the
index does not name stay behind, and all of them where there is no reading it. They go unnoticed:
nothing enumerates them, and a credential that is stored later takes the place of one with its
identifier. So credentials are written and listed as in a store that never had any.

Main statements: `exists_cleared` (what both resets leave) and `ListsAlike.answers_eq`.
-/

namespace CredentialStore.KeyringStore

open Op SecretStore

/-- The key of nothing that a keyring keeps. -/
structure IsForeign (key : String) : Prop where
  ne_credentialKey : ∀ guid, key ≠ credentialKey guid
  ne_indexKey : key ≠ indexKey
  ne_defaultKey : key ≠ defaultKey
  ne_legacyKey : key ≠ legacyKey

/-- Nothing is enumerated or preferred, and there is no legacy entry. -/
structure IsCleared (s : SecretStore) : Prop where
  responds : s.Responds
  enumerated_eq : enumerated s = .ok []
  preferred_eq : s.entries.find? defaultKey = none
  legacy_eq : s.entries.find? legacyKey = none

variable {s t : SecretStore}

theorem find?_eraseAll_of_isForeign {key : String} (h : IsForeign key)
    (entries : SortedTable String) (gs : List String) :
    (eraseAll entries gs).find? key = entries.find? key := by
  rw [eraseAll, SortedTable.find?_erase, if_neg h.ne_defaultKey, SortedTable.find?_erase,
    if_neg h.ne_indexKey, find?_eraseRecords_of_forall_ne fun g _ => h.ne_credentialKey g]

theorem isCleared_of_empty (hs : s.Responds) (hempty : s.entries = .empty) : IsCleared s := by
  refine ⟨hs, ?_, by rw [hempty]; rfl, by rw [hempty]; rfl⟩
  rw [enumerated, hempty]
  split <;> rfl

/-- Whatever texts a store has, a reset and one of the legacy entry leave nothing that is
enumerated, and all keys that they do not know. -/
theorem exists_cleared (hs : s.Responds) :
    ∃ t u, reset.Yields s (.ok {}) t ∧ LegacyStore.reset.Yields t (.ok {}) u ∧ IsCleared u ∧
      ∀ key, IsForeign key → u.entries.find? key = s.entries.find? key := by
  have hreset := yields_reset hs (yields_guids hs)
  generalize hgs : (enumerated s).toOption.getD [] = gs at hreset
  have ht := hs.with_entries (eraseAll s.entries gs)
  refine ⟨_, _, hreset, (yields_remove ht legacyKey).discard.bind (yields_pure _ _), ?_, ?_⟩
  · obtain ⟨hindex, hpreferred, hin, hout⟩ := find?_eraseAll s.entries gs
    refine ⟨ht.with_entries _, ?_, ?_, ?_⟩
    · rw [enumerated]
      dsimp only
      split
      · rename_i hlisting
        -- every record was enumerated and is removed
        rw [recordGuids_eq_of_mem_iff List.Pairwise.nil fun guid => ?_]
        rw [enumerated, if_pos hlisting] at hgs
        subst hgs
        rw [SortedTable.find?_erase, if_neg (credentialKey_ne_legacyKey guid)]
        by_cases hguid : guid ∈ recordGuids s.entries
        · simp [hin guid hguid]
        · simpa [hout guid hguid] using mt mem_recordGuids_iff.2 hguid
      · rw [storedIndex, SortedTable.find?_erase, if_neg (by decide), hindex]
        rfl
    · rw [SortedTable.find?_erase, if_neg (by decide), hpreferred]
    · rw [SortedTable.find?_erase, if_pos rfl]
  · intro key hkey
    rw [SortedTable.find?_erase, if_neg hkey.ne_legacyKey, find?_eraseAll_of_isForeign hkey]

namespace IsCleared

variable (h : IsCleared s)

include h

theorem yields_list : service.list.Yields s (.ok []) s := by
  have hlisted := yields_listed h.responds
  rwa [listed, h.enumerated_eq] at hlisted

theorem yields_defaultServer : service.defaultServer.Yields s (.ok none) s := by
  have hread := yields_read h.responds defaultKey
  rw [h.preferred_eq] at hread
  have hguid : defaultGuid.Yields s (.ok none) s := hread.bind (yields_pure none s)
  exact hguid.bind (yields_pure none s)

theorem yields_isPresent : LegacyStore.isPresent.Yields s (.ok false) s := by
  have hretrieve := yields_retrieve h.responds legacyKey
  rw [h.legacy_eq] at hretrieve
  exact hretrieve.attempt.bind (yields_pure false s)

end IsCleared

/-! ## Runs of writes -/

/-- Two secret stores respond, enumerate the same identifiers and have the same records of those. -/
structure ListsAlike (s t : SecretStore) : Prop where
  responds_left : s.Responds
  responds_right : t.Responds
  enumerated_eq : enumerated t = enumerated s
  record_eq : ∀ {gs}, enumerated s = .ok gs → ∀ guid ∈ gs,
    t.entries.find? (credentialKey guid) = s.entries.find? (credentialKey guid)

theorem IsCleared.listsAlike (hs : IsCleared s) (ht : IsCleared t) : ListsAlike s t := by
  refine ⟨hs.responds, ht.responds, ht.enumerated_eq.trans hs.enumerated_eq.symm, fun hgs guid hg => ?_⟩
  cases hs.enumerated_eq.symm.trans hgs
  cases hg

namespace ListsAlike

variable {s' t' : SecretStore} {c : Credential}

theorem listed_eq (h : ListsAlike s t) : listed t = listed s :=
  listed_congr h.enumerated_eq fun _ => h.record_eq

/-- A credential that is entered in both is enumerated in both, and has the same record. -/
theorem enters (h : ListsAlike s t) {gs : List String} (hgs : enumerated s = .ok gs)
    (hs' : s'.Responds) (ht' : t'.Responds) (hs : Enters c (withRecord s c) s')
    (ht : Enters c (withRecord t c) t') : ListsAlike s' t' := by
  obtain ⟨gs', hgs', hmem⟩ := enumerated_of_enters hgs hs
  obtain ⟨fs', hfs', hmem'⟩ := enumerated_of_enters (h.enumerated_eq.trans hgs) ht
  have hsame : fs' = gs' := (ascending_of_enumerated hfs').eq_of_mem_iff
    (ascending_of_enumerated hgs') fun guid => by rw [hmem, hmem']
  subst hsame
  refine ⟨hs', ht', hfs'.trans hgs'.symm, fun hg guid hguid => ?_⟩
  cases hgs'.symm.trans hg
  rw [hs.find?_eq (credentialKey_ne_indexKey guid), ht.find?_eq (credentialKey_ne_indexKey guid),
    find?_withRecord, find?_withRecord]
  split
  · rfl
  · -- any other identifier was enumerated before
    rename_i hne
    exact h.record_eq hgs guid (((hmem guid).1 hguid).resolve_right (mt (congrArg credentialKey) hne))

/-- A write is answered alike, whatever it makes of what is listed. -/
theorem respects_write {x : Op SecretStore Credential}
    {write : Ledger → Except CredentialError Credential × Ledger}
    (hx : ∀ {s}, s.Responds → ∃ t, x.Yields s (answered s write) t ∧
      Wrote s (answered s write) t) : x.Respects ListsAlike := by
  intro s t h
  obtain ⟨s', hleft, hs', hs⟩ := hx h.responds_left
  obtain ⟨t', hright, ht', ht⟩ := hx h.responds_right
  have hanswered : answered t write = answered s write := by
    rw [answered, answered, h.listed_eq]
  rw [hanswered] at hright ht
  refine ⟨_, s', t', hleft, hright, ?_⟩
  cases hr : answered s write with
  | error e =>
    rw [hr] at hs ht
    rw [hs, ht]
    exact h
  | ok c =>
    rw [hr] at hs ht
    -- what has been written was held against a list, so identifiers were enumerated
    obtain ⟨cs, hlisted, -⟩ := exists_listed_of_answered hr
    obtain ⟨gs, hgs, -⟩ := listed_eq_ok_iff.1 hlisted
    exact h.enters hgs hs' ht' hs ht

/-- Credentials are listed and written alike. -/
theorem respects_perform {r : Request} (hr : r.ListsOrWrites) :
    (service.perform r).Respects ListsAlike := by
  cases r with
  | list =>
    refine Respects.map (fun s t h => ?_) _
    have hright := yields_listed h.responds_right
    rw [h.listed_eq] at hright
    exact ⟨_, s, t, yields_listed h.responds_left, hright, h⟩
  | set random a => exact (respects_write fun hs => exists_set hs _ _).map _
  | forceSet random a => exact (respects_write fun hs => exists_forceSet hs _ _).map _
  | _ => exact hr.elim

/-- So they are in a run. -/
theorem answers_eq (h : ListsAlike s t) {requests : List Request}
    (hrequests : ∀ r ∈ requests, r.ListsOrWrites) :
    service.answers requests s = service.answers requests t := by
  -- on the requests: the first one leaves stores that list alike, and the rest starts from there
  induction requests generalizing s t with
  | nil => rfl
  | cons r rest ih =>
    have hr := respects_perform (hrequests r List.mem_cons_self)
    rw [Service.answers, Service.answers, hr.answer_eq h,
      ih (hr.state h) fun x hx => hrequests x (List.mem_cons_of_mem r hx)]

end ListsAlike

end CredentialStore.KeyringStore
