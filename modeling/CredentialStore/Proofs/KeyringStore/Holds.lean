import CredentialStore.Proofs.KeyringStore.Writes
import CredentialStore.Proofs.Service.Ledger

/-!
# What a keyring holds

A secret store that responds holds what a ledger holds if there is a record for each of its
credentials and no other, and, where keys cannot be listed, an index of exactly those. The order of
the credentials is not kept. Main statements: `exists_loadAll` (all of them are loaded, in some
order), `exists_persist` and `exists_removeEntry` (what is written and removed).
-/

namespace CredentialStore.KeyringStore

open Op SecretStore Text

/-- A table has a record for each credential of a list and no others, and, where keys cannot be
listed, an index of exactly those. -/
structure Keeps (listing : Bool) (entries : SortedTable String) (cs : List Credential) : Prop where
  record_iff : ∀ {guid text}, entries.find? (credentialKey guid) = some text ↔
    ∃ c ∈ cs, c.guid = guid ∧ (Record.ofCredential c).write = text
  exists_index : listing = false → ∃ index, storedIndex entries = some index ∧
    ∀ {guid name}, index.find? guid = some name ↔ ∃ c ∈ cs, c.guid = guid ∧ c.name = name

/-- A secret store responds and holds what a ledger holds. -/
structure Holds (s : SecretStore) (l : Ledger) : Prop where
  responds : s.Responds
  keeps : Keeps s.listing s.entries l.credentials
  preferred_eq : (s.entries.find? defaultKey).map trim = l.preferred

/-! ## Tables of texts -/

section Tables

variable {listing : Bool} {entries : SortedTable String} {cs : List Credential} {c : Credential}

/-- Texts under other keys do not count. -/
theorem Keeps.congr {entries' : SortedTable String} (h : Keeps listing entries cs)
    (hrecords : ∀ guid, entries'.find? (credentialKey guid) = entries.find? (credentialKey guid))
    (hindex : entries'.find? indexKey = entries.find? indexKey) : Keeps listing entries' cs := by
  constructor
  · intro guid text
    rw [hrecords]
    exact h.record_iff
  · rw [storedIndex_congr hindex]
    exact h.exists_index

/-- What is kept after the record of a credential was written, and its place in the index. -/
theorem Keeps.put (h : Keeps listing entries cs) (hnames : (cs.map (·.name)).Nodup)
    (hfits : Ledger.Fits cs c) {entries' : SortedTable String}
    (hrecords : ∀ guid, entries'.find? (credentialKey guid) =
      if c.guid = guid then some (Record.ofCredential c).write
      else entries.find? (credentialKey guid))
    (hindex : listing = false → ∀ index, storedIndex entries = some index →
      ∃ index', storedIndex entries' = some index' ∧ ∀ guid, index'.find? guid =
        if c.guid = guid then some c.name else index.find? guid) :
    Keeps listing entries' (Ledger.put c cs) := by
  -- among the credentials afterwards, the one that was put is the only one with its identifier
  have hmem : ∀ {guid : String} {p : Credential → Prop},
      (∃ x ∈ Ledger.put c cs, x.guid = guid ∧ p x) ↔
        if c.guid = guid then p c else ∃ x ∈ cs, x.guid = guid ∧ p x := by
    intro guid p
    constructor
    · rintro ⟨x, hx, hguid, hp⟩
      rcases (Ledger.mem_put hnames).1 hx with rfl | ⟨hx, hne⟩
      · rw [if_pos hguid]
        exact hp
      · rw [if_neg fun heq => hne ((hfits x hx).2 (hguid.trans heq.symm))]
        exact ⟨x, hx, hguid, hp⟩
    · intro h
      split at h
      · rename_i hguid
        exact ⟨c, (Ledger.mem_put hnames).2 (.inl rfl), hguid, h⟩
      · rename_i hguid
        obtain ⟨x, hx, hxguid, hp⟩ := h
        refine ⟨x, (Ledger.mem_put hnames).2 (.inr ⟨hx, fun hname => hguid ?_⟩), hxguid, hp⟩
        rw [← (hfits x hx).1 hname, hxguid]
  constructor
  · intro guid text
    rw [hrecords, hmem]
    split
    · exact Option.some_inj
    · exact h.record_iff
  · intro hlisting
    obtain ⟨index, hstored, hiff⟩ := h.exists_index hlisting
    obtain ⟨index', hstored', hfind⟩ := hindex hlisting index hstored
    refine ⟨index', hstored', fun {guid name} => ?_⟩
    rw [hfind, hmem]
    split
    · exact Option.some_inj
    · exact hiff

/-- What is kept after a record was removed, and its place in the index. -/
theorem Keeps.erase (h : Keeps listing entries cs) (guid : String)
    {entries' : SortedTable String}
    (hrecords : ∀ g, entries'.find? (credentialKey g) =
      if g = guid then none else entries.find? (credentialKey g))
    (hindex : listing = false → ∀ index, storedIndex entries = some index →
      ∃ index', storedIndex entries' = some index' ∧ ∀ g, index'.find? g =
        if g = guid then none else index.find? g) :
    Keeps listing entries' (cs.filter (·.guid != guid)) := by
  -- no credential with the identifier is left
  have hmem : ∀ {g : String} {p : Credential → Prop},
      (∃ x ∈ cs.filter (·.guid != guid), x.guid = g ∧ p x) ↔
        g ≠ guid ∧ ∃ x ∈ cs, x.guid = g ∧ p x := by
    intro g p
    constructor
    · rintro ⟨x, hx, rfl, hp⟩
      rw [List.mem_filter, bne_iff_ne] at hx
      exact ⟨hx.2, x, hx.1, rfl, hp⟩
    · rintro ⟨hne, x, hx, rfl, hp⟩
      exact ⟨x, List.mem_filter.2 ⟨hx, bne_iff_ne.2 hne⟩, rfl, hp⟩
  constructor
  · intro g text
    rw [hrecords, hmem]
    split
    · rename_i hg
      simp [hg]
    · rename_i hg
      rw [h.record_iff]
      exact ⟨fun hx => ⟨hg, hx⟩, fun hx => hx.2⟩
  · intro hlisting
    obtain ⟨index, hstored, hiff⟩ := h.exists_index hlisting
    obtain ⟨index', hstored', hfind⟩ := hindex hlisting index hstored
    refine ⟨index', hstored', fun {g name} => ?_⟩
    rw [hfind, hmem]
    split
    · rename_i hg
      simp [hg]
    · rename_i hg
      rw [hiff]
      exact ⟨fun hx => ⟨hg, hx⟩, fun hx => hx.2⟩

end Tables

/-! ## Reading -/

section Reading

variable {s : SecretStore} (h : s.Responds)

include h

theorem yields_read (key : String) : (read key).Yields s (.ok (s.entries.find? key)) s :=
  (yields_retrieve h key).mapError _

theorem yields_loadIndex {index : Index} (hindex : storedIndex s.entries = some index) :
    loadIndex.Yields s (.ok index) s := by
  refine (yields_read h indexKey).bind ?_
  rw [storedIndex] at hindex
  cases hfind : s.entries.find? indexKey with
  | none =>
    rw [hfind] at hindex
    cases hindex
    exact yields_pure _ s
  | some text =>
    rw [hfind] at hindex
    dsimp only at hindex ⊢
    rw [hindex]
    exact yields_pure _ s

/-- Where keys can be listed, the identifiers are those with a record. -/
theorem yields_guids_of_listing (hlisting : s.listing = true) :
    guids.Yields s (.ok (recordGuids s.entries)) s := by
  refine (yields_canList s).bind ?_
  rw [if_pos hlisting]
  exact ((yields_keysFrom h hlisting credentialStart).mapError _).bind (yields_pure _ s)

/-- Where keys cannot be listed, they are those in the index. -/
theorem yields_guids_of_index (hlisting : s.listing = false) {index : Index}
    (hindex : storedIndex s.entries = some index) : guids.Yields s (.ok index.keys) s := by
  refine (yields_canList s).bind ?_
  rw [if_neg (by simp [hlisting])]
  exact (yields_loadIndex h hindex).bind (yields_pure _ s)

theorem yields_load_of_none {guid : String} (hnone : s.entries.find? (credentialKey guid) = none) :
    (load guid).Yields s (.ok none) s := by
  refine (yields_read h _).bind ?_
  rw [hnone]
  exact yields_pure none s

theorem yields_load_of_some {guid text : String}
    (htext : s.entries.find? (credentialKey guid) = some text) :
    (load guid).Yields s ((decode guid text).map some) s := by
  refine (yields_read h _).bind ?_
  rw [htext]
  dsimp only
  cases decode guid text with
  | ok c => exact (yields_ofExcept (.ok c) s).map some
  | error e => exact (yields_ofExcept (.error e) s).map_error some

end Reading

variable {s : SecretStore} {l : Ledger}

/-- The identifiers that are enumerated are those of the credentials. -/
theorem exists_guids (h : Holds s l) (hv : Ledger.Valid l.credentials) :
    ∃ gs, guids.Yields s (.ok gs) s ∧ gs.Perm (l.credentials.map (·.guid)) := by
  -- neither enumeration repeats an identifier, so it is enough that both have the same ones
  have hperm : ∀ {gs : List String}, gs.Nodup →
      (∀ g, g ∈ gs ↔ ∃ c ∈ l.credentials, c.guid = g) → gs.Perm (l.credentials.map (·.guid)) := by
    intro gs hgs hmem
    refine (List.perm_ext_iff_of_nodup hgs hv.guids_nodup).2 fun g => ?_
    rw [hmem, List.mem_map]
  cases hlisting : s.listing with
  | true =>
    refine ⟨recordGuids s.entries, yields_guids_of_listing h.responds hlisting,
      hperm (nodup_recordGuids _) fun g => ?_⟩
    rw [mem_recordGuids_iff]
    constructor
    · rintro ⟨text, htext⟩
      obtain ⟨c, hc, hguid, -⟩ := h.keeps.record_iff.1 htext
      exact ⟨c, hc, hguid⟩
    · rintro ⟨c, hc, hguid⟩
      exact ⟨_, h.keeps.record_iff.2 ⟨c, hc, hguid, rfl⟩⟩
  | false =>
    obtain ⟨index, hindex, hiff⟩ := h.keeps.exists_index hlisting
    refine ⟨index.keys, yields_guids_of_index h.responds hlisting hindex,
      hperm index.keys_nodup fun g => ?_⟩
    rw [SortedTable.mem_keys_iff]
    constructor
    · rintro ⟨name, hname⟩
      obtain ⟨c, hc, hguid, -⟩ := hiff.1 hname
      exact ⟨c, hc, hguid⟩
    · rintro ⟨c, hc, hguid⟩
      exact ⟨_, hiff.2 ⟨c, hc, hguid, rfl⟩⟩

theorem yields_load (h : Holds s l) (hv : Ledger.Valid l.credentials) (guid : String) :
    (load guid).Yields s (.ok (l.find? guid)) s := by
  cases hfind : l.find? guid with
  | none =>
    rw [Ledger.find?_eq_none_iff] at hfind
    refine yields_load_of_none h.responds ?_
    cases htext : s.entries.find? (credentialKey guid) with
    | none => rfl
    | some text =>
      -- a record would be one of a credential
      obtain ⟨c, hc, hguid, -⟩ := h.keeps.record_iff.1 htext
      exact absurd hguid (hfind c hc)
  | some c =>
    obtain ⟨hc, rfl⟩ := (Ledger.find?_eq_some_iff hv).1 hfind
    have hload := yields_load_of_some h.responds (h.keeps.record_iff.2 ⟨c, hc, rfl, rfl⟩)
    rwa [decode_write] at hload

theorem yields_loadEach (h : Holds s l) (hv : Ledger.Valid l.credentials) (gs : List String) :
    (loadEach gs).Yields s (.ok (gs.filterMap l.find?)) s := by
  induction gs with
  | nil => exact yields_pure _ s
  | cons g gs ih =>
    refine (yields_load h hv g).bind ?_
    cases hfind : l.find? g with
    | none =>
      rw [List.filterMap_cons_none hfind]
      exact (yields_warn _ s).bind ih
    | some c =>
      rw [List.filterMap_cons_some hfind]
      exact ih.bind (yields_pure _ s)

/-- All credentials are loaded, in some order. -/
theorem exists_loadAll (h : Holds s l) (hv : Ledger.Valid l.credentials) :
    ∃ cs, loadAll.Yields s (.ok cs) s ∧ cs.Perm l.credentials := by
  obtain ⟨gs, hgs, hperm⟩ := exists_guids h hv
  have hself : (l.credentials.map (·.guid)).filterMap l.find? = l.credentials := by
    rw [List.filterMap_map]
    refine (List.filterMap_congr fun c hc => ?_).trans List.filterMap_some
    exact (Ledger.find?_eq_some_iff hv).2 ⟨hc, rfl⟩
  refine ⟨gs.filterMap l.find?, hgs.bind (yields_loadEach h hv gs), ?_⟩
  have hcs := hperm.filterMap l.find?
  rwa [hself] at hcs

theorem yields_defaultGuid (h : Holds s l) : defaultGuid.Yields s (.ok l.preferred) s := by
  refine (yields_read h.responds defaultKey).bind ?_
  rw [h.preferred_eq]
  exact yields_pure _ s

/-! ## Writing -/

theorem Holds.isIndexReadable (h : Holds s l) : IsIndexReadable s := fun hlisting => by
  obtain ⟨index, hstored, -⟩ := h.keeps.exists_index hlisting
  exact ⟨index, hstored⟩

/-- A credential is written where it fits. -/
theorem exists_persist (h : Holds s l) (hv : Ledger.Valid l.credentials) {c : Credential}
    (hfits : Ledger.Fits l.credentials c) (previous : Option Credential) :
    ∃ t, (persist c previous).Yields s (.ok ()) t ∧
      Holds t { l with credentials := Ledger.put c l.credentials } := by
  obtain ⟨t, hpersist, ht, henters⟩ := persist_of_responds h.responds h.isIndexReadable c previous
  refine ⟨t, hpersist, ht, ?_, ?_⟩
  · rw [henters.listing_eq]
    refine h.keeps.put hv.names_nodup hfits (fun guid => ?_) fun hlisting index hstored => ?_
    · rw [henters.find?_eq (credentialKey_ne_indexKey guid), find?_withRecord]
      simp only [credentialKey_inj]
    · -- the index that was kept is the one that was entered into
      obtain ⟨index₀, index', hstored₀, hstored', hfind⟩ := henters.exists_index hlisting
      rw [storedIndex_withRecord, hstored] at hstored₀
      cases hstored₀
      exact ⟨index', hstored', hfind⟩
  · rw [← h.preferred_eq, henters.find?_eq (by decide), find?_withRecord,
      if_neg (credentialKey_ne_defaultKey c.guid)]

/-- A record and its place in the index are removed. -/
theorem exists_removeEntry (h : Holds s l) (guid text : String) :
    ∃ t, (removeEntry guid text).Yields s (.ok ()) t ∧
      Holds t { l with credentials := l.credentials.filter (·.guid != guid) } := by
  obtain ⟨t, hremove, ht, hremoves⟩ := removeEntry_of_responds h.responds h.isIndexReadable guid text
  refine ⟨t, hremove, ht, ?_, ?_⟩
  · rw [hremoves.listing_eq]
    refine h.keeps.erase guid (fun g => ?_) fun hlisting index hstored => ?_
    · rw [hremoves.find?_eq (credentialKey_ne_indexKey g)]
      simp only [credentialKey_inj]
    · obtain ⟨index₀, index', hstored₀, hstored', hfind⟩ := hremoves.exists_index hlisting
      rw [hstored] at hstored₀
      cases hstored₀
      exact ⟨index', hstored', hfind⟩
  · rw [← h.preferred_eq, hremoves.find?_eq (by decide),
      if_neg (Ne.symm (credentialKey_ne_defaultKey guid))]

/-- The preferred identifier is removed. -/
theorem exists_removeDefault (h : Holds s l) :
    ∃ t, (Functor.discard (remove defaultKey)).Yields s (.ok ()) t ∧
      Holds t { l with preferred := none } := by
  refine ⟨_, (yields_remove h.responds defaultKey).discard, h.responds.with_entries _,
    h.keeps.congr (fun guid => ?_) ?_, ?_⟩
  · show (s.entries.erase defaultKey).find? _ = _
    rw [SortedTable.find?_erase, if_neg (credentialKey_ne_defaultKey guid)]
  · show (s.entries.erase defaultKey).find? _ = _
    rw [SortedTable.find?_erase, if_neg (by decide)]
  · show ((s.entries.erase defaultKey).find? defaultKey).map trim = none
    rw [SortedTable.find?_erase, if_pos rfl]
    rfl

end CredentialStore.KeyringStore
