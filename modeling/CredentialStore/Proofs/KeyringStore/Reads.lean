import CredentialStore.KeyringStore.Basic
import CredentialStore.Proofs.KeyringStore.Keys
import CredentialStore.Proofs.SecretStore.Calls

/-!
# Reading a keyring, whatever fails

A read leaves all texts, whether it fails or not, and one that answers tells what is there. Main
statements: `guids_cases` (the identifiers that are enumerated) and `loadAll_cases` (the credentials
that are loaded).
-/

namespace CredentialStore.KeyringStore

open Op SecretStore Text

variable {s t : SecretStore}

theorem read_cases {key : String} {r : Except CredentialError (Option String)}
    (h : (read key).Yields s r t) :
    s.Keeps t ∧ (r = .ok (s.entries.find? key) ∨ ∃ e, r = .error e) := by
  obtain ⟨q, hretrieve, rfl⟩ := h.of_mapError
  obtain ⟨hkeeps, rfl | ⟨e, rfl⟩⟩ := retrieve_cases hretrieve
  · exact ⟨hkeeps, .inl rfl⟩
  · exact ⟨hkeeps, .inr ⟨_, rfl⟩⟩

theorem loadIndex_cases {r : Except CredentialError Index} (h : loadIndex.Yields s r t) :
    s.Keeps t ∧ ((∃ index, storedIndex s.entries = some index ∧ r = .ok index) ∨
      ∃ e, r = .error e) := by
  rcases h.bind_cases with ⟨e, hread, rfl⟩ | ⟨text, s₁, hread, hrest⟩
  · exact ⟨(read_cases hread).1, .inr ⟨e, rfl⟩⟩
  · obtain ⟨hkeeps, hr | ⟨e, hr⟩⟩ := read_cases hread
    · cases hr
      rw [storedIndex]
      -- no text is an empty index, and a text that cannot be read is an error
      cases hfind : s.entries.find? indexKey with
      | none =>
        rw [hfind] at hrest
        obtain ⟨rfl, rfl⟩ := hrest
        exact ⟨hkeeps, .inl ⟨_, rfl, rfl⟩⟩
      | some text =>
        rw [hfind] at hrest
        dsimp only at hrest ⊢
        cases hindex : Index.read? text with
        | none =>
          rw [hindex] at hrest
          obtain ⟨rfl, rfl⟩ := hrest
          exact ⟨hkeeps, .inr ⟨_, rfl⟩⟩
        | some index =>
          rw [hindex] at hrest
          obtain ⟨rfl, rfl⟩ := hrest
          exact ⟨hkeeps, .inl ⟨index, rfl, rfl⟩⟩
    · cases hr

/-- Enumerating leaves all texts, and answers with the records or with the index if it does not
fail. -/
theorem guids_cases {r : Except CredentialError (List String)} (h : guids.Yields s r t) :
    s.Keeps t ∧ ((s.listing = true ∧ r = .ok (recordGuids s.entries)) ∨
      (s.listing = false ∧ ∃ index, storedIndex s.entries = some index ∧ r = .ok index.keys) ∨
      ∃ e, r = .error e) := by
  have hrest := h.of_bind (yields_canList s)
  -- where keys can be listed, they are; the identifiers are read off them
  by_cases hlisting : s.listing = true
  · rw [if_pos hlisting] at hrest
    rcases hrest.bind_cases with ⟨e, hkeys, rfl⟩ | ⟨keys, s₁, hkeys, hrest⟩
    · obtain ⟨q, hkeys, -⟩ := hkeys.of_mapError
      exact ⟨(keysFrom_cases hkeys).1, .inr (.inr ⟨e, rfl⟩)⟩
    · obtain ⟨rfl, rfl⟩ := (yields_pure _ s₁).unique hrest
      obtain ⟨q, hkeys, hmap⟩ := hkeys.of_mapError
      obtain ⟨hkeeps, rfl | ⟨e, rfl⟩⟩ := keysFrom_cases hkeys
      · cases hmap
        exact ⟨hkeeps, .inl ⟨hlisting, rfl⟩⟩
      · cases hmap
  · -- where keys cannot be listed, the index tells them
    rw [if_neg hlisting] at hrest
    rcases hrest.bind_cases with ⟨e, hload, rfl⟩ | ⟨index, s₁, hload, hrest⟩
    · exact ⟨(loadIndex_cases hload).1, .inr (.inr ⟨e, rfl⟩)⟩
    · obtain ⟨rfl, rfl⟩ := hrest
      obtain ⟨hkeeps, ⟨index', hstored, hok⟩ | ⟨e, he⟩⟩ := loadIndex_cases hload
      · cases hok
        exact ⟨hkeeps, .inr (.inl ⟨by simpa using hlisting, index, hstored, rfl⟩)⟩
      · cases he

/-- A record that can be enumerated: where keys cannot be listed, it has a place in the index. -/
structure IsListed (s : SecretStore) (guid : String) : Prop where
  record_ne : s.entries.find? (credentialKey guid) ≠ none
  mem_index : s.listing = false →
    ∃ index, storedIndex s.entries = some index ∧ guid ∈ index.keys

/-- Texts under other keys do not count. -/
theorem IsListed.congr {guid : String} (h : IsListed s guid) (hlisting : t.listing = s.listing)
    (hrecords : ∀ guid, t.entries.find? (credentialKey guid) = s.entries.find? (credentialKey guid))
    (hindex : t.entries.find? indexKey = s.entries.find? indexKey) : IsListed t guid := by
  constructor
  · rw [hrecords]
    exact h.record_ne
  · rw [hlisting, storedIndex_congr hindex]
    exact h.mem_index

theorem IsListed.of_keeps {guid : String} (h : IsListed s guid) (hkeeps : s.Keeps t) :
    IsListed t guid :=
  h.congr hkeeps.listing_eq (fun _ => by rw [hkeeps.entries_eq]) (by rw [hkeeps.entries_eq])

/-- What an enumeration that answers has found. -/
theorem isListed_iff_mem_guids {gs : List String} (h : guids.Yields s (.ok gs) t) {guid : String} :
    IsListed s guid ↔ guid ∈ gs ∧ s.entries.find? (credentialKey guid) ≠ none := by
  obtain ⟨-, ⟨hlisting, hgs⟩ | ⟨hlisting, index, hstored, hgs⟩ | ⟨e, he⟩⟩ := guids_cases h
  · cases hgs
    -- every record has its key in the list
    refine ⟨fun hlisted => ⟨?_, hlisted.record_ne⟩, fun ⟨_, hrecord⟩ => ⟨hrecord, fun hfalse => ?_⟩⟩
    · exact mem_recordGuids_iff.2 (Option.ne_none_iff_exists'.1 hlisted.record_ne)
    · rw [hlisting] at hfalse
      cases hfalse
  · cases hgs
    constructor
    · intro hlisted
      -- the index that was read is the one that is stored
      obtain ⟨index', hstored', hmem⟩ := hlisted.mem_index hlisting
      rw [hstored] at hstored'
      cases hstored'
      exact ⟨hmem, hlisted.record_ne⟩
    · exact fun ⟨hmem, hrecord⟩ => ⟨hrecord, fun _ => ⟨index, hstored, hmem⟩⟩
  · cases he

/-- The credential of the record with an identifier, if there is one that can be decoded. -/
def recordOf? (entries : SortedTable String) (guid : String) : Option Credential :=
  (entries.find? (credentialKey guid)).bind fun text => (decode guid text).toOption

theorem recordOf?_eq_some_iff {entries : SortedTable String} {guid : String} {c : Credential} :
    recordOf? entries guid = some c ↔
      ∃ text, entries.find? (credentialKey guid) = some text ∧ decode guid text = .ok c := by
  rw [recordOf?, Option.bind_eq_some_iff]
  refine exists_congr fun text => and_congr_right fun _ => ?_
  cases decode guid text with
  | ok d => exact ⟨fun h => congrArg _ (Option.some.inj h), fun h => congrArg _ (Except.ok.inj h)⟩
  | error e => exact ⟨nofun, nofun⟩

theorem recordOf?_congr {entries entries' : SortedTable String} {guid : String}
    (h : entries'.find? (credentialKey guid) = entries.find? (credentialKey guid)) :
    recordOf? entries' guid = recordOf? entries guid := by
  rw [recordOf?, recordOf?, h]

/-- Loading a credential leaves all texts, and finds it if it does not fail. -/
theorem load_cases {guid : String} {r : Except CredentialError (Option Credential)}
    (h : (load guid).Yields s r t) :
    s.Keeps t ∧ (r = .ok (recordOf? s.entries guid) ∧
      (s.entries.find? (credentialKey guid) ≠ none → recordOf? s.entries guid ≠ none) ∨
      ∃ e, r = .error e) := by
  rcases h.bind_cases with ⟨e, hread, rfl⟩ | ⟨text?, s₁, hread, hrest⟩
  · exact ⟨(read_cases hread).1, .inr ⟨e, rfl⟩⟩
  · obtain ⟨hkeeps, htext | ⟨e, he⟩⟩ := read_cases hread
    · cases htext
      rw [recordOf?]
      -- what was read is decoded, and nothing is touched any more
      cases hfind : s.entries.find? (credentialKey guid) with
      | none =>
        rw [hfind] at hrest
        obtain ⟨rfl, rfl⟩ := (yields_pure none s₁).unique hrest
        exact ⟨hkeeps, .inl ⟨rfl, fun hne => absurd rfl hne⟩⟩
      | some text =>
        rw [hfind] at hrest
        obtain ⟨q, hdecode, rfl⟩ := hrest.of_map
        obtain ⟨rfl, rfl⟩ := (yields_ofExcept _ s₁).unique hdecode
        rw [Option.bind_some]
        cases decode guid text with
        | ok c => exact ⟨hkeeps, .inl ⟨rfl, fun _ => Option.some_ne_none c⟩⟩
        | error e => exact ⟨hkeeps, .inr ⟨e, rfl⟩⟩
    · cases he

theorem loadEach_cases {gs : List String} {r : Except CredentialError (List Credential)}
    (h : (loadEach gs).Yields s r t) :
    s.Keeps t ∧ (r = .ok (gs.filterMap (recordOf? s.entries)) ∧
      (∀ g ∈ gs, s.entries.find? (credentialKey g) ≠ none → recordOf? s.entries g ≠ none) ∨
      ∃ e, r = .error e) := by
  -- on the identifiers; each load may leave other rules, so the store goes along
  induction gs generalizing s r with
  | nil =>
    obtain ⟨rfl, rfl⟩ := (yields_pure [] s).unique h
    exact ⟨.refl s, .inl ⟨rfl, fun g hg => (List.not_mem_nil hg).elim⟩⟩
  | cons g gs ih =>
    rcases h.bind_cases with ⟨e, hload, rfl⟩ | ⟨c?, s₁, hload, hrest⟩
    · exact ⟨(load_cases hload).1, .inr ⟨e, rfl⟩⟩
    obtain ⟨hkeeps, ⟨hc, hreadable⟩ | ⟨e, he⟩⟩ := load_cases hload
    · cases hc
      -- what the rest answers is put behind what was found
      have hrest : ∃ q, (loadEach gs).Yields s₁ q t ∧
          r = q.map fun ds => (recordOf? s.entries g).toList ++ ds := by
        cases hfound : recordOf? s.entries g with
        | none =>
          rw [hfound] at hrest
          refine ⟨r, hrest.of_bind (yields_warn _ s₁), ?_⟩
          cases r <;> rfl
        | some c =>
          rw [hfound] at hrest
          rcases hrest.bind_cases with ⟨e, heach, rfl⟩ | ⟨ds, s₂, heach, hrest⟩
          · exact ⟨_, heach, rfl⟩
          · obtain ⟨rfl, rfl⟩ := (yields_pure (c :: ds) s₂).unique hrest
            exact ⟨_, heach, rfl⟩
      obtain ⟨q, heach, rfl⟩ := hrest
      obtain ⟨hkeeps', ⟨rfl, hreadable'⟩ | ⟨e, rfl⟩⟩ := ih heach
      · rw [hkeeps.entries_eq] at hreadable' ⊢
        refine ⟨hkeeps.trans hkeeps', .inl ⟨?_, fun x hx => ?_⟩⟩
        · rw [List.filterMap_cons]
          cases recordOf? s.entries g <;> rfl
        · rcases List.mem_cons.1 hx with rfl | hx
          · exact hreadable
          · exact hreadable' x hx
      · exact ⟨hkeeps.trans hkeeps', .inr ⟨e, rfl⟩⟩
    · cases he

/-- Loading everything leaves all texts, and finds the credentials of the records that can be
enumerated if it does not fail. -/
theorem loadAll_cases {r : Except CredentialError (List Credential)} (h : loadAll.Yields s r t) :
    s.Keeps t ∧ ∀ cs, r = .ok cs →
      (∀ c, c ∈ cs ↔ ∃ guid, IsListed s guid ∧ recordOf? s.entries guid = some c) ∧
      ∀ guid, IsListed s guid → recordOf? s.entries guid ≠ none := by
  rcases h.bind_cases with ⟨e, hguids, rfl⟩ | ⟨gs, s₁, hguids, hrest⟩
  · exact ⟨(guids_cases hguids).1, fun cs hcs => nomatch hcs⟩
  · have hkeeps := (guids_cases hguids).1
    obtain ⟨hkeeps', hcs⟩ := loadEach_cases hrest
    rw [hkeeps.entries_eq] at hcs
    refine ⟨hkeeps.trans hkeeps', fun cs hr => ?_⟩
    rcases hcs with ⟨heq, hreadable⟩ | ⟨e, he⟩
    · rw [heq] at hr
      cases hr
      refine ⟨fun c => ?_, fun guid hlisted => ?_⟩
      · rw [List.mem_filterMap]
        constructor
        · -- an identifier in the index without a record gives no credential
          rintro ⟨guid, hguid, hc⟩
          refine ⟨guid, (isListed_iff_mem_guids hguids).2 ⟨hguid, fun hnone => ?_⟩, hc⟩
          rw [recordOf?, hnone] at hc
          cases hc
        · rintro ⟨guid, hlisted, hc⟩
          exact ⟨guid, ((isListed_iff_mem_guids hguids).1 hlisted).1, hc⟩
      · exact hreadable guid ((isListed_iff_mem_guids hguids).1 hlisted).1 hlisted.record_ne
    · rw [he] at hr
      cases hr

end CredentialStore.KeyringStore
