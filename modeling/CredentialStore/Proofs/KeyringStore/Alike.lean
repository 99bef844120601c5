import CredentialStore.Proofs.KeyringStore.Holds
import CredentialStore.Proofs.KeyringStore.Reads
import CredentialStore.Proofs.KeyringStore.Turns

/-!
# Keyrings that answer alike

What is listed, found and preferred depends on what the records decode to, on the index and on the
preference, and on nothing else. So a record may be written anew, as long as it decodes to the same
credential. Main statements: `ReadsAlike.answersAlike`, `yields_loadAll_restored` (what is loaded
while calls may fail is what is there) and `admitsReads_asRestored` (where only writes fail, reads
do not notice).
-/

namespace CredentialStore.KeyringStore

open Op SecretStore

variable {s t : SecretStore}

/-- Two keyrings list, find and prefer the same. -/
structure AnswersAlike (s t : SecretStore) : Prop where
  list_eq : (service.list t).answer = (service.list s).answer
  get_eq : ∀ guid, (service.get guid t).answer = (service.get guid s).answer
  defaultServer_eq : (service.defaultServer t).answer = (service.defaultServer s).answer

/-- Two secret stores respond, and have the same records, decoded, the same index and the same
preference. -/
structure ReadsAlike (s t : SecretStore) : Prop where
  responds_left : s.Responds
  responds_right : t.Responds
  listing_eq : t.listing = s.listing
  records_eq : ∀ guid, (t.entries.find? (credentialKey guid)).map (decode guid) =
    (s.entries.find? (credentialKey guid)).map (decode guid)
  index_eq : t.entries.find? indexKey = s.entries.find? indexKey
  preferred_eq : t.entries.find? defaultKey = s.entries.find? defaultKey

namespace ReadsAlike

theorem of_keeps (h : s.Keeps t) : ReadsAlike s.restored t.restored where
  responds_left := responds_restored s
  responds_right := responds_restored t
  listing_eq := h.listing_eq
  records_eq guid := congrArg (Option.map (decode guid) <| SortedTable.find? · _) h.entries_eq
  index_eq := congrArg (SortedTable.find? · indexKey) h.entries_eq
  preferred_eq := congrArg (SortedTable.find? · defaultKey) h.entries_eq

/-- The same identifiers have a record. -/
theorem recordGuids_eq (h : ReadsAlike s t) : recordGuids t.entries = recordGuids s.entries := by
  refine recordGuids_eq_of_mem_iff (recordGuids_ascending _) fun guid => ?_
  have hrecord := congrArg Option.isSome (h.records_eq guid)
  rw [mem_recordGuids_iff, ← Option.isSome_iff_exists, ← Option.isSome_iff_exists]
  rw [Option.isSome_map, Option.isSome_map] at hrecord
  rw [hrecord]

/-- A text that is the same in both is read alike. -/
theorem respects_read {key : String}
    (heq : ∀ {s t}, ReadsAlike s t → t.entries.find? key = s.entries.find? key) :
    (read key).Respects ReadsAlike := by
  intro s t h
  have hread := yields_read h.responds_right key
  rw [heq h] at hread
  exact ⟨_, s, t, yields_read h.responds_left key, hread, h⟩

/-- What reading operations are put together from does not tell the stores apart. -/
theorem admitsReads : AdmitsReads ReadsAlike where
  guids := by
    intro s t h
    -- the records are listed, or the index is read, in both
    cases hlisting : s.listing with
    | true =>
      have hguids := yields_guids_of_listing h.responds_right (h.listing_eq.trans hlisting)
      rw [h.recordGuids_eq] at hguids
      exact ⟨_, s, t, yields_guids_of_listing h.responds_left hlisting, hguids, h⟩
    | false =>
      have hindex := (loadIndex_closed (Respects.closed ReadsAlike) (respects_read (·.index_eq))).map
        (SortedTable.keys ·)
      obtain ⟨r, s', t', hs, ht, h'⟩ := hindex h
      refine ⟨r, s', t', (yields_canList s).bind ?_, (yields_canList t).bind ?_, h'⟩
      · rwa [if_neg (by simp [hlisting])]
      · rwa [if_neg (by simp [h.listing_eq, hlisting])]
  load guid := by
    intro s t h
    -- a record is there in both or in neither, and it decodes to the same
    have hrecord := h.records_eq guid
    cases hs : s.entries.find? (credentialKey guid) with
    | none =>
      rw [hs, Option.map_none, Option.map_eq_none_iff] at hrecord
      exact ⟨_, s, t, yields_load_of_none h.responds_left hs,
        yields_load_of_none h.responds_right hrecord, h⟩
    | some text =>
      rw [hs] at hrecord
      obtain ⟨text', ht, hdecode⟩ := Option.map_eq_some_iff.1 hrecord
      have hload := yields_load_of_some h.responds_right ht
      rw [hdecode] at hload
      exact ⟨_, s, t, yields_load_of_some h.responds_left hs, hload, h⟩
  defaultGuid := (respects_read (·.preferred_eq)).bind fun _ => .pure _

theorem answersAlike (h : ReadsAlike s t) : AnswersAlike s t where
  list_eq := (admitsReads.loadAll.answer_eq h).symm
  get_eq guid := ((admitsReads.get guid).answer_eq h).symm
  defaultServer_eq := (admitsReads.defaultServer.answer_eq h).symm

end ReadsAlike

/-! ## Where only writes fail -/

/-- One store, and the same one without rules for failing calls. -/
def AsRestored (s₀ s t : SecretStore) : Prop :=
  s = s₀ ∧ t = s₀.restored

section AsRestored

variable {s₀ : SecretStore} {α : Type} {x : Op SecretStore α}

theorem respects_asRestored {r : Except CredentialError α} (hs : x.Yields s₀ r s₀)
    (ht : x.Yields s₀.restored r s₀.restored) : x.Respects (AsRestored s₀) := by
  rintro s t ⟨rfl, rfl⟩
  exact ⟨r, _, _, hs, ht, rfl, rfl⟩

/-- What is known where no call fails holds where reads do not. -/
theorem yields_of_respects_asRestored (hx : x.Respects (AsRestored s₀))
    {r : Except CredentialError α} (h : x.Yields s₀.restored r s₀.restored) : x.Yields s₀ r s₀ := by
  obtain ⟨q, s, t, hs, ht, rfl, rfl⟩ := hx ⟨rfl, rfl⟩
  obtain ⟨rfl, -⟩ := h.unique ht
  exact hs

variable (h : s₀.RespondsToReads)

include h

theorem respects_retrieve_asRestored (key : String) : (retrieve key).Respects (AsRestored s₀) :=
  respects_asRestored (yields_retrieve_of_reads h key)
    (yields_retrieve_of_reads (respondsToReads_restored s₀) key)

theorem admitsReads_asRestored : AdmitsReads (AsRestored s₀) where
  guids := by
    have hkeys : (keysFrom credentialStart).Respects (AsRestored s₀) :=
      respects_asRestored (yields_keysFrom_of_reads h _)
        (yields_keysFrom_of_reads (respondsToReads_restored s₀) _)
    have hcan : canList.Respects (AsRestored s₀) :=
      respects_asRestored (yields_canList s₀) (yields_canList s₀.restored)
    exact guids_closed (Respects.closed _) hcan (hkeys.mapError _)
      ((respects_retrieve_asRestored h indexKey).mapError _)
  load guid := load_closed (Respects.closed _) ((respects_retrieve_asRestored h _).mapError _)
  defaultGuid := ((respects_retrieve_asRestored h _).mapError _).bind fun _ => .pure _

end AsRestored

/-! ## Loading again -/

/-- Where all records of a list can be decoded, they are loaded. -/
theorem yields_loadEach_of_readable (hs : s.Responds) {gs : List String}
    (hreadable : ∀ guid ∈ gs, s.entries.find? (credentialKey guid) ≠ none →
      recordOf? s.entries guid ≠ none) :
    (loadEach gs).Yields s (.ok (gs.filterMap (recordOf? s.entries))) s := by
  -- on the identifiers; one without a record adds nothing to either list
  induction gs with
  | nil => exact yields_pure [] s
  | cons guid gs ih =>
    have hrest := ih fun g hg => hreadable g (List.mem_cons_of_mem guid hg)
    have hguid := hreadable guid List.mem_cons_self
    cases htext : s.entries.find? (credentialKey guid) with
    | none =>
      have hnone : recordOf? s.entries guid = none := by rw [recordOf?, htext, Option.bind_none]
      rw [List.filterMap_cons_none hnone]
      exact (yields_load_of_none hs htext).bind ((yields_warn _ s).bind hrest)
    | some text =>
      have hload := yields_load_of_some hs htext
      have hrecord : recordOf? s.entries guid = (decode guid text).toOption := by
        rw [recordOf?, htext, Option.bind_some]
      cases hdecode : decode guid text with
      | ok c =>
        rw [hdecode] at hload hrecord
        rw [List.filterMap_cons_some hrecord]
        exact hload.bind (hrest.bind (yields_pure _ s))
      | error e =>
        rw [hdecode] at hrecord
        exact absurd hrecord (hguid (by rw [htext]; exact Option.some_ne_none text))

/-- What was loaded is loaded again as soon as calls succeed. -/
theorem yields_loadAll_restored {cs : List Credential} (h : loadAll.Yields s (.ok cs) t) :
    loadAll.Yields s.restored (.ok cs) s.restored := by
  have hs := responds_restored s
  obtain ⟨gs, u, hguids, heach⟩ := h.bind_ok
  obtain ⟨hkeeps, hgs⟩ := guids_cases hguids
  obtain ⟨-, ⟨hcs, hreadable⟩ | ⟨e, he⟩⟩ := loadEach_cases heach
  · cases hcs
    rw [hkeeps.entries_eq] at hreadable ⊢
    refine Yields.bind ?_ (yields_loadEach_of_readable hs hreadable)
    -- the records or the index tell the same identifiers again
    rcases hgs with ⟨hlisting, hgs⟩ | ⟨hlisting, index, hstored, hgs⟩ | ⟨e, he⟩
    · cases hgs
      exact yields_guids_of_listing hs hlisting
    · cases hgs
      exact yields_guids_of_index hs hlisting hstored
    · cases he
  · cases he

end CredentialStore.KeyringStore
