import CredentialStore.Proofs.KeyringStore.Codec
import Mathlib.Data.List.Nodup
import Mathlib.Data.List.Sort

/-!
# The keys of a keyring

The keys of credentials tell their identifiers and are none of the other keys. Main statements:
`mem_recordGuids_iff` (listing finds exactly the identifiers with a record),
`recordGuids_eq_of_mem_iff` (in ascending order) and `storedIndex_insert` (an index that was put
reads back).
-/

namespace CredentialStore

namespace SortedTable

variable {α : Type}

theorem keys_nodup (t : SortedTable α) : t.keys.Nodup := by
  refine List.pairwise_map.2 (t.ascending.imp fun {a b} hlt heq => ?_)
  rw [heq] at hlt
  exact String.lt_irrefl _ hlt

theorem keys_ascending (t : SortedTable α) : t.keys.Pairwise (· < ·) :=
  List.pairwise_map.2 t.ascending

theorem mem_keys_iff {t : SortedTable α} {key : String} :
    key ∈ t.keys ↔ ∃ value, t.find? key = some value := by
  rw [keys, List.mem_map]
  constructor
  · rintro ⟨e, he, rfl⟩
    exact ⟨e.2, find?_eq_some_iff.2 he⟩
  · rintro ⟨value, hvalue⟩
    exact ⟨_, find?_eq_some_iff.1 hvalue, rfl⟩

end SortedTable

namespace KeyringStore

theorem guidOf?_eq_some_iff {key guid : String} :
    guidOf? key = some guid ↔ key = credentialKey guid := by
  constructor
  · intro h
    rw [guidOf?] at h
    split at h
    · rename_i hstart
      cases h
      -- the key is the start and what is behind it
      obtain ⟨rest, hrest⟩ := List.isPrefixOf_iff_prefix.1 hstart
      rw [← hrest, List.drop_left, credentialKey, ← String.toList_inj, String.toList_append,
        String.toList_ofList, hrest]
    · cases h
  · rintro rfl
    exact guidOf?_credentialKey guid

theorem credentialKey_inj {g h : String} : credentialKey g = credentialKey h ↔ g = h := by
  constructor
  · intro heq
    have hguid := guidOf?_credentialKey g
    rw [heq, guidOf?_credentialKey] at hguid
    exact (Option.some.inj hguid).symm
  · rintro rfl
    rfl

/-- A key that tells no identifier is no key of a credential. -/
theorem credentialKey_ne {key : String} (h : guidOf? key = none) (guid : String) :
    credentialKey guid ≠ key := by
  rintro rfl
  rw [guidOf?_credentialKey] at h
  cases h

theorem credentialKey_ne_indexKey (guid : String) : credentialKey guid ≠ indexKey :=
  credentialKey_ne (by decide) guid

theorem credentialKey_ne_defaultKey (guid : String) : credentialKey guid ≠ defaultKey :=
  credentialKey_ne (by decide) guid

theorem credentialKey_ne_legacyKey (guid : String) : credentialKey guid ≠ legacyKey :=
  credentialKey_ne (by decide) guid

/-- The identifiers whose keys are in a table. -/
def recordGuids (entries : SortedTable String) : List String :=
  (entries.keys.filter fun key => credentialStart.toList.isPrefixOf key.toList).filterMap guidOf?

theorem mem_recordGuids_iff {entries : SortedTable String} {guid : String} :
    guid ∈ recordGuids entries ↔ ∃ text, entries.find? (credentialKey guid) = some text := by
  rw [recordGuids, List.mem_filterMap]
  constructor
  · -- the only key with that identifier is the one of the record
    rintro ⟨key, hkey, hguid⟩
    rw [guidOf?_eq_some_iff] at hguid
    subst hguid
    exact SortedTable.mem_keys_iff.1 (List.mem_filter.1 hkey).1
  · intro h
    refine ⟨credentialKey guid, List.mem_filter.2 ⟨SortedTable.mem_keys_iff.2 h, ?_⟩,
      guidOf?_credentialKey guid⟩
    simp [credentialKey]

theorem nodup_recordGuids (entries : SortedTable String) : (recordGuids entries).Nodup := by
  refine List.Nodup.filterMap ?_ (entries.keys_nodup.sublist List.filter_sublist)
  -- different keys tell different identifiers
  intro key key' guid hguid hguid'
  rw [guidOf?_eq_some_iff.1 hguid, guidOf?_eq_some_iff.1 hguid']

/-- Keys of credentials come in the order of their identifiers. -/
theorem credentialKey_lt_iff {g h : String} : credentialKey g < credentialKey h ↔ g < h := by
  have hmono : ∀ {g h : String}, g < h → credentialKey g < credentialKey h := fun hlt => by
    rw [String.lt_iff] at hlt ⊢
    rw [credentialKey, credentialKey, String.toList_append, String.toList_append]
    exact List.append_left_lt hlt
  refine ⟨fun hlt => Classical.byContradiction fun hnot => ?_, hmono⟩
  -- the identifiers would be the same or the other way round, and so would the keys
  by_cases heq : g = h
  · rw [heq] at hlt
    exact String.lt_irrefl _ hlt
  · exact String.lt_irrefl _ (String.lt_trans hlt
      (hmono (SortedTable.lt_of_not_lt_of_ne hnot heq)))

theorem recordGuids_ascending (entries : SortedTable String) :
    (recordGuids entries).Pairwise (· < ·) := by
  rw [recordGuids, List.pairwise_filterMap]
  refine (entries.keys_ascending.sublist List.filter_sublist).imp fun {a b} hlt g hg h hh => ?_
  rw [guidOf?_eq_some_iff.1 hg, guidOf?_eq_some_iff.1 hh] at hlt
  exact credentialKey_lt_iff.1 hlt

/-- The identifiers with a record are listed in ascending order, so their list is determined by
which ones there are. -/
theorem recordGuids_eq_of_mem_iff {entries : SortedTable String} {gs : List String}
    (hgs : gs.Pairwise (· < ·))
    (hmem : ∀ guid, guid ∈ gs ↔ ∃ text, entries.find? (credentialKey guid) = some text) :
    recordGuids entries = gs := by
  refine (recordGuids_ascending entries).eq_of_mem_iff hgs fun guid => ?_
  rw [mem_recordGuids_iff, hmem]

/-! ## The index -/

/-- The index in a table of texts; a table without one has an empty one. -/
def storedIndex (entries : SortedTable String) : Option Index :=
  match entries.find? indexKey with
  | none => some .empty
  | some text => Index.read? text

theorem storedIndex_congr {entries entries' : SortedTable String}
    (h : entries'.find? indexKey = entries.find? indexKey) :
    storedIndex entries' = storedIndex entries := by
  rw [storedIndex, storedIndex, h]

theorem storedIndex_insert (entries : SortedTable String) (index : Index) :
    storedIndex (entries.insert indexKey index.write) = some index := by
  rw [storedIndex, SortedTable.find?_insert, if_pos rfl]
  exact Index.read?_write index

end KeyringStore

end CredentialStore
