import CredentialStore.Proofs.KeyringStore.Atomic
import CredentialStore.Proofs.KeyringStore.Legacy

/-!
# The index and the records

A keyring whose secret store cannot list its keys finds its records through the index alone. A
record and its place in the index are two texts, each of which may fail to be written; but where one
call of a turn fails at most, the index has exactly the identifiers with a record after it, each
with the name in that record. A reset is left out: one that fails half way has removed records and
not the index.

Main statements:

* `Coherent.take` — a turn that meets one failing call at most keeps the index in step;
* `index_of_undisturbed` — so it is in step whenever such turns are taken, and what is listed is
  what is found.
-/

namespace CredentialStore.KeyringStore

open Op SecretStore

variable {s t : SecretStore}

/-- Every record decodes to a credential of its own identifier, and the index, where there is one,
has the names of exactly these credentials. -/
structure Coherent (s : SecretStore) : Prop where
  exists_record : ∀ {guid}, s.entries.find? (credentialKey guid) ≠ none →
    ∃ c, recordOf? s.entries guid = some c ∧ c.guid = guid
  exists_index : s.listing = false → ∃ index, storedIndex s.entries = some index ∧
    ∀ guid, index.find? guid = (recordOf? s.entries guid).map (·.name)

/-! ## Texts that change -/

/-- Texts under other keys do not count. -/
theorem Coherent.congr (h : Coherent s) (hlisting : t.listing = s.listing)
    (hrecords : ∀ guid, t.entries.find? (credentialKey guid) = s.entries.find? (credentialKey guid))
    (hindex : t.entries.find? indexKey = s.entries.find? indexKey) : Coherent t := by
  have hdecoded : ∀ guid, recordOf? t.entries guid = recordOf? s.entries guid :=
    fun guid => recordOf?_congr (hrecords guid)
  constructor
  · intro guid
    rw [hrecords, hdecoded]
    exact h.exists_record
  · rw [hlisting, storedIndex_congr hindex]
    simp only [hdecoded]
    exact h.exists_index

theorem Coherent.of_keeps (h : Coherent s) (hkeeps : s.Keeps t) : Coherent t :=
  h.congr hkeeps.listing_eq (fun _ => by rw [hkeeps.entries_eq]) (by rw [hkeeps.entries_eq])

/-- A key that is none of a credential and not that of the index does not count. -/
theorem Coherent.of_keepsBut (h : Coherent s) {key : String} (hkey : guidOf? key = none)
    (hindex : indexKey ≠ key) (hkeeps : KeepsBut key s t) : Coherent t :=
  h.congr hkeeps.listing_eq (fun guid => hkeeps.find?_eq (credentialKey_ne hkey guid))
    (hkeeps.find?_eq hindex)

/-- A record and its place in the index are written together. -/
theorem Coherent.of_enters (h : Coherent s) {c : Credential} (henters : Enters c (withRecord s c) t) :
    Coherent t := by
  have hdecoded : ∀ guid, recordOf? t.entries guid =
      if c.guid = guid then some c else recordOf? s.entries guid := fun guid => by
    rw [recordOf?_congr (henters.find?_eq (credentialKey_ne_indexKey guid)), recordOf?_withRecord]
  constructor
  · intro guid
    rw [hdecoded]
    split
    · rename_i hguid
      exact fun _ => ⟨c, rfl, hguid⟩
    · rename_i hguid
      rw [henters.find?_eq (credentialKey_ne_indexKey guid), find?_withRecord,
        if_neg fun hkey => hguid (credentialKey_inj.1 hkey)]
      exact h.exists_record
  · intro hlisting
    rw [henters.listing_eq] at hlisting
    obtain ⟨index, index', hstored, hstored', hfind⟩ := henters.exists_index hlisting
    -- the index from before is the one that is in step
    obtain ⟨index₀, hstored₀, hnames⟩ := h.exists_index hlisting
    rw [storedIndex_withRecord, hstored₀] at hstored
    cases hstored
    refine ⟨index', hstored', fun guid => ?_⟩
    rw [hfind, hdecoded]
    split
    · rfl
    · exact hnames guid

/-- A record may be written anew. -/
theorem Coherent.withRecord (h : Coherent s) {p : Credential}
    (hrecord : recordOf? s.entries p.guid = some p) : Coherent (withRecord s p) := by
  have hdecoded : ∀ guid, recordOf? (KeyringStore.withRecord s p).entries guid =
      recordOf? s.entries guid := fun guid => by
    rw [recordOf?_withRecord]
    split
    · rename_i hguid
      rw [← hguid, hrecord]
    · rfl
  constructor
  · intro guid
    rw [hdecoded, find?_withRecord]
    split
    · rename_i hkey
      obtain rfl := credentialKey_inj.1 hkey
      exact fun _ => ⟨p, hrecord, rfl⟩
    · exact h.exists_record
  · rw [storedIndex_withRecord]
    simp only [hdecoded]
    exact h.exists_index

/-- A record and its place in the index are removed together. -/
theorem Coherent.of_removes (h : Coherent s) {guid : String} (hremoves : Removes guid s t) :
    Coherent t := by
  have hrecords : ∀ g, t.entries.find? (credentialKey g) =
      if g = guid then none else s.entries.find? (credentialKey g) := fun g => by
    rw [hremoves.find?_eq (credentialKey_ne_indexKey g)]
    simp only [credentialKey_inj]
  have hdecoded : ∀ g, recordOf? t.entries g =
      if g = guid then none else recordOf? s.entries g := fun g => by
    rw [recordOf?, hrecords]
    split <;> rfl
  constructor
  · intro g
    rw [hrecords, hdecoded]
    split
    · exact fun hne => absurd rfl hne
    · exact h.exists_record
  · intro hlisting
    rw [hremoves.listing_eq] at hlisting
    obtain ⟨index, index', hstored, hstored', hfind⟩ := hremoves.exists_index hlisting
    -- there is one index, the one that was in step
    obtain ⟨index₀, hstored₀, hnames⟩ := h.exists_index hlisting
    rw [hstored₀] at hstored
    cases hstored
    refine ⟨index', hstored', fun g => ?_⟩
    rw [hfind, hdecoded]
    split
    · rfl
    · exact hnames g

theorem coherent_of_unused (h : ∀ key, IsKeyringKey key → s.entries.find? key = none) :
    Coherent s := by
  have hrecords : ∀ guid, s.entries.find? (credentialKey guid) = none :=
    fun guid => h _ (.inl ⟨guid, rfl⟩)
  refine ⟨fun hne => absurd (hrecords _) hne, fun _ => ⟨.empty, ?_, fun guid => ?_⟩⟩
  · rw [storedIndex, h _ (.inr (.inl rfl))]
  · rw [recordOf?, hrecords]
    rfl

/-! ## What is coherent -/

theorem Coherent.ownsRecords (h : Coherent s) : OwnsRecords s := by
  rintro key text htext guid c rfl hdecode
  obtain ⟨d, hrecord, hguid⟩ := h.exists_record (by rw [htext]; exact Option.some_ne_none text)
  rw [recordOf?_eq_some_iff.2 ⟨text, htext, hdecode⟩] at hrecord
  cases hrecord
  exact hguid

/-- Every record can be enumerated. -/
theorem Coherent.isListed (h : Coherent s) {guid : String}
    (hrecord : s.entries.find? (credentialKey guid) ≠ none) : IsListed s guid := by
  refine ⟨hrecord, fun hlisting => ?_⟩
  obtain ⟨index, hstored, hnames⟩ := h.exists_index hlisting
  obtain ⟨c, hc, -⟩ := h.exists_record hrecord
  exact ⟨index, hstored, SortedTable.mem_keys_iff.2 ⟨c.name, by rw [hnames, hc]; rfl⟩⟩

/-- In either way, exactly the identifiers with a record are enumerated, in ascending order. -/
theorem Coherent.yields_guids (h : Coherent s) (hs : s.Responds) :
    guids.Yields s (.ok (recordGuids s.entries)) s := by
  cases hlisting : s.listing with
  | true => exact yields_guids_of_listing hs hlisting
  | false =>
    obtain ⟨index, hstored, hnames⟩ := h.exists_index hlisting
    have hmem : ∀ guid, guid ∈ index.keys ↔
        ∃ text, s.entries.find? (credentialKey guid) = some text := fun guid => by
      rw [SortedTable.mem_keys_iff]
      constructor
      · rintro ⟨name, hname⟩
        rw [hnames] at hname
        obtain ⟨c, hc, -⟩ := Option.map_eq_some_iff.1 hname
        obtain ⟨text, htext, -⟩ := recordOf?_eq_some_iff.1 hc
        exact ⟨text, htext⟩
      · intro hrecord
        obtain ⟨c, hc, -⟩ := h.exists_record (Option.ne_none_iff_exists'.2 hrecord)
        exact ⟨c.name, by rw [hnames, hc]; rfl⟩
    rw [recordGuids_eq_of_mem_iff index.keys_ascending hmem]
    exact yields_guids_of_index hs hlisting hstored

/-- The credentials of all records are loaded. -/
theorem Coherent.yields_loadAll (h : Coherent s) (hs : s.Responds) :
    loadAll.Yields s (.ok ((recordGuids s.entries).filterMap (recordOf? s.entries))) s := by
  -- none is passed over, since every record decodes
  refine (h.yields_guids hs).bind (yields_loadEach_of_readable hs fun guid _ hrecord => ?_)
  obtain ⟨c, hc, -⟩ := h.exists_record hrecord
  rw [hc]
  exact Option.some_ne_none c

/-- What is found is what the record decodes to. -/
theorem get_eq_ok_iff (hs : s.Responds) {guid : String} {c : Credential} :
    (get guid s).answer = .ok c ↔ recordOf? s.entries guid = some c := by
  rw [recordOf?_eq_some_iff]
  cases htext : s.entries.find? (credentialKey guid) with
  | none =>
    have hget : (get guid).Yields s (.error (.notFound guid)) s :=
      (yields_load_of_none hs htext).bind (yields_throw _ s)
    rw [hget.1]
    exact ⟨nofun, nofun⟩
  | some text =>
    have hload := yields_load_of_some hs htext
    have hget : (get guid).Yields s (decode guid text) s := by
      cases hdecode : decode guid text with
      | ok d =>
        rw [hdecode] at hload
        exact hload.bind (yields_pure d s)
      | error e =>
        rw [hdecode] at hload
        exact hload.bind_error
    rw [hget.1]
    exact ⟨fun h => ⟨text, rfl, h⟩, fun ⟨_, heq, h⟩ => by cases heq; exact h⟩

/-! ## Turns -/

/-- Reading keeps every text. -/
theorem admitsReads_coherent : AdmitsReads (Both Coherent) where
  guids := preserves_iff.2 fun _ _ _ h hs => hs.of_keeps (guids_cases h).1
  load _ := preserves_iff.2 fun _ _ _ h hs => hs.of_keeps (load_cases h).1
  defaultGuid := preserves_iff.2 fun _ _ _ h hs => by
    obtain ⟨q, hread, -⟩ := h.of_map
    exact hs.of_keeps (read_cases hread).1

theorem preferNone_coherent : (Functor.discard (remove defaultKey)).Preserves Coherent :=
  preserves_iff.2 fun _ _ _ h hs =>
    hs.of_keepsBut (by decide) (by decide) (keepsBut_of_remove h)

theorem setDefaultServer_coherent (guid : String) : (setDefaultServer guid).Preserves Coherent :=
  admitsReads_coherent.setDefaultServer <| preserves_iff.2 fun _ _ _ h hs =>
    hs.of_keepsBut (by decide) (by decide) (keepsBut_of_put h)

namespace Coherent

variable (h : Coherent s) (honce : s.FailsAtMost 1)

include h honce

theorem set {fresh : String} {details : Details} {r : Except CredentialError Credential}
    (hset : (set fresh details).Yields s r t) : Coherent t := by
  -- an identifier that cannot be enumerated has no record
  have hunused : ∀ c, details.toCredential fresh = .ok c → ¬ IsListed s c.guid →
      s.entries.find? (credentialKey c.guid) = none := fun c _ hnot =>
    Classical.not_not.1 fun hrecord => hnot (h.isListed hrecord)
  rcases set_leaves honce h.ownsRecords hunused hset with ⟨c, -, henters⟩ | ⟨-, hkeeps⟩
  · exact h.of_enters henters
  · exact h.of_keeps hkeeps

theorem forceSet {fresh : String} {details : Details}
    (hunused : s.entries.find? (credentialKey (details.effectiveGuid fresh)) = none)
    {r : Except CredentialError Credential} (hset : (forceSet fresh details).Yields s r t) :
    Coherent t := by
  rcases forceSet_leaves honce h.ownsRecords hunused hset with
    ⟨c, -, henters⟩ | ⟨-, hkeeps | ⟨p, -, hrecord, hkeeps⟩⟩
  · exact h.of_enters henters
  · exact h.of_keeps hkeeps
  · exact (h.withRecord hrecord).of_keeps hkeeps

theorem delete {guid : String} {r : Except CredentialError Unit}
    (hdelete : (delete guid).Yields s r t) : Coherent t := by
  have hafter : ∀ {q u}, (removeRecord guid).Yields s q u → Coherent u := fun hremove => by
    rcases removeRecord_leaves honce hremove with ⟨-, -, hremoves⟩ | ⟨-, hkeeps⟩
    · exact h.of_removes hremoves
    · exact h.of_keeps hkeeps
  rw [delete_eq] at hdelete
  rcases hdelete.bind_cases with ⟨e, hremove, -⟩ | ⟨a, u, hremove, hforget⟩
  · exact hafter hremove
  · exact (hafter hremove).of_keepsBut (by decide) (by decide) (keepsBut_of_forget hforget)

end Coherent

/-- A migration writes one credential after the other, and as long as none fails, one may. -/
theorem admitsCopies_coherent : AdmitsCopies (Both fun s => Coherent s ∧ s.FailsAtMost 1) := by
  have honce := (stable_failsAtMost 1).admits
  constructor
  case loadAll =>
    exact preserves_iff.2 fun s r t hload hs =>
      ⟨Preserves.of_yields admitsReads_coherent.loadAll hload hs.1,
        Preserves.of_yields honce.loadAll hload hs.2⟩
  case set =>
    exact fun fresh details => preserves_iff.2 fun s r t hset hs =>
      ⟨hs.1.set hs.2 hset, Preserves.of_yields (honce.set fresh details) hset hs.2⟩
  case legacyList =>
    exact preserves_iff.2 fun s r t hlist hs =>
      ⟨hs.1.of_keeps (LegacyStore.list_cases hlist).1,
        Preserves.of_yields honce.legacyList hlist hs.2⟩
  case legacyReset =>
    refine preserves_iff.2 fun s r t hreset hs =>
      ⟨?_, Preserves.of_yields honce.legacyReset hreset hs.2⟩
    obtain ⟨q, hremove, -⟩ := hreset.of_map
    exact hs.1.of_keepsBut (by decide) (by decide) (keepsBut_of_remove hremove)

namespace Turn

/-- Whether a turn is a reset. -/
def IsReset : Turn → Prop
  | .request .reset => True
  | _ => False

/-- A forced write stores a new credential under an identifier without a record. -/
def DrawsUnused (s : SecretStore) : Turn → Prop
  | .request (.forceSet random _) => s.entries.find? (credentialKey (Guid.ofRandom random)) = none
  | .forceSet random details =>
    s.entries.find? (credentialKey (details.effectiveGuid (Guid.ofRandom random))) = none
  | _ => True

/-- A turn is no reset, meets one failing call at most, and draws no identifier in use. -/
structure IsUndisturbed (s : SecretStore) (x : Turn) : Prop where
  once : s.FailsAtMost 1
  not_reset : ¬ x.IsReset
  draws : x.DrawsUnused s

end Turn

/-- A turn that meets one failing call at most keeps the index in step with the records. -/
theorem Coherent.take (h : Coherent s) {x : Turn} (hx : x.IsUndisturbed s)
    {r : Except CredentialError Answer} (hyields : x.take.Yields s r t) : Coherent t := by
  obtain ⟨honce, hreset, hdraws⟩ := hx
  -- a write is about one credential; everything else leaves the records and the index
  cases x with
  | set random details =>
    obtain ⟨q, hset, -⟩ := hyields.of_map
    exact h.set honce hset
  | forceSet random details =>
    obtain ⟨q, hset, -⟩ := hyields.of_map
    exact h.forceSet honce hdraws hset
  | migrate random =>
    have hmigrate := (admitsCopies_coherent.migrate fun i => Guid.ofRandom (random i)).map Answer.report
    exact (Preserves.of_yields hmigrate hyields ⟨h, honce⟩).1
  | copy random c =>
    have hcopy := (admitsCopies_coherent.copy (Guid.ofRandom random) c).map fun _ => Answer.copied
    exact (Preserves.of_yields hcopy hyields ⟨h, honce⟩).1
  | request request =>
    have hreads := admitsReads_coherent
    cases request with
    | reset => exact absurd trivial hreset
    | list => exact Preserves.of_yields ((hreads.loadAll.map _).map _) hyields h
    | get guid => exact Preserves.of_yields (((hreads.get guid).map _).map _) hyields h
    | defaultServer => exact Preserves.of_yields ((hreads.defaultServer.map _).map _) hyields h
    | setDefaultServer guid =>
      exact Preserves.of_yields (((setDefaultServer_coherent guid).map _).map _) hyields h
    | clearDefaultServer => exact Preserves.of_yields ((preferNone_coherent.map _).map _) hyields h
    | set random a =>
      obtain ⟨q, hperform, -⟩ := hyields.of_map
      obtain ⟨q, hset, -⟩ := hperform.of_map
      exact h.set honce hset
    | forceSet random a =>
      obtain ⟨q, hperform, -⟩ := hyields.of_map
      obtain ⟨q, hset, -⟩ := hperform.of_map
      refine h.forceSet honce ?_ hset
      exact hdraws
    | delete guid =>
      obtain ⟨q, hperform, -⟩ := hyields.of_map
      obtain ⟨q, hdelete, -⟩ := hperform.of_map
      exact h.delete honce hdelete

/-- So does every sequence of such turns. -/
theorem ReachableBy.coherent (h : ReachableBy Turn.IsUndisturbed s) : Coherent s := by
  -- on the way to the state; between two turns neither the records nor the index change
  induction h with
  | unused h => exact coherent_of_unused h
  | turn h x hx ih => exact ih.take hx (yields_self x.take _)
  | between h hlisting hkeys ih =>
    exact ih.congr hlisting (fun guid => hkeys _ (.inl ⟨guid, rfl⟩)) (hkeys _ (.inr (.inl rfl)))

/-- Where keys cannot be listed and every turn met one failing call at most, the index has exactly
the identifiers with a record, each with the name in that record; and as soon as calls succeed, what
is listed is what is found. -/
theorem index_of_undisturbed (h : ReachableBy Turn.IsUndisturbed s) (hlisting : s.listing = false) :
    (∃ index, storedIndex s.entries = some index ∧
      (∀ guid, guid ∈ index.keys ↔ s.entries.find? (credentialKey guid) ≠ none) ∧
      ∀ guid name, index.find? guid = some name →
        ∃ c, recordOf? s.entries guid = some c ∧ c.guid = guid ∧ c.name = name) ∧
    ∃ cs, (service.list s.restored).answer = .ok cs ∧
      ∀ guid, (∃ c, (service.get guid s.restored).answer = .ok c) ↔ ∃ c ∈ cs, c.guid = guid := by
  have hcoherent := h.coherent
  have hresponds := responds_restored s
  -- first what the index says, then what is answered
  constructor
  · obtain ⟨index, hstored, hnames⟩ := hcoherent.exists_index hlisting
    refine ⟨index, hstored, fun guid => ⟨fun hmem hnone => ?_, fun hrecord => ?_⟩,
      fun guid name hname => ?_⟩
    · obtain ⟨name, hname⟩ := SortedTable.mem_keys_iff.1 hmem
      rw [hnames, recordOf?, hnone] at hname
      cases hname
    · obtain ⟨index', hstored', hmem⟩ := (hcoherent.isListed hrecord).mem_index hlisting
      rw [hstored] at hstored'
      cases hstored'
      exact hmem
    · rw [hnames] at hname
      obtain ⟨c, hc, hcname⟩ := Option.map_eq_some_iff.1 hname
      exact ⟨c, hc, hcoherent.ownsRecords.guid_eq hc, hcname⟩
  · have hrestored : Coherent s.restored := hcoherent.of_keeps (keeps_restored s)
    have hload := hrestored.yields_loadAll hresponds
    refine ⟨_, hload.1, fun guid => ?_⟩
    simp only [show service.get guid = get guid from rfl, get_eq_ok_iff hresponds,
      List.mem_filterMap, mem_recordGuids_iff]
    constructor
    · rintro ⟨c, hc⟩
      obtain ⟨text, htext, -⟩ := recordOf?_eq_some_iff.1 hc
      exact ⟨c, ⟨guid, ⟨text, htext⟩, hc⟩, hrestored.ownsRecords.guid_eq hc⟩
    · rintro ⟨c, ⟨g, -, hc⟩, rfl⟩
      exact ⟨c, by rwa [hrestored.ownsRecords.guid_eq hc]⟩

/-- A store that cannot list its keys and fails once to write the index; the first credential is
taken back, and the second one is stored. -/
def indexReadOnlyOnce : SecretStore :=
  let empty : SecretStore := {
    listing := false
    faults := [{
      call := .store, keyStart := indexKey, error := .keyring "locked", times := some 1 }] }
  let failed := ((Turn.set [1] (.connect "work" "https://a.b" "k")).take empty).state
  ((Turn.set [] (.connect "home" "https://c.d" "l")).take failed).state

theorem index_of_undisturbed_indexReadOnlyOnce :
    ReachableBy Turn.IsUndisturbed indexReadOnlyOnce ∧
      ∃ cs, (service.list indexReadOnlyOnce.restored).answer = .ok cs ∧
        ∀ guid, (∃ c, (service.get guid indexReadOnlyOnce.restored).answer = .ok c) ↔
          ∃ c ∈ cs, c.guid = guid := by
  have hreachable : ReachableBy Turn.IsUndisturbed indexReadOnlyOnce := by
    refine .turn (.turn (.unused fun _ _ => rfl) _ ⟨⟨by decide, rfl⟩, id, trivial⟩) _
      ⟨⟨?_, ?_⟩, id, trivial⟩
    · decide +kernel
    · decide +kernel
  have hlisting : indexReadOnlyOnce.listing = false := by decide +kernel
  exact ⟨hreachable, (index_of_undisturbed hreachable hlisting).2⟩

end CredentialStore.KeyringStore
