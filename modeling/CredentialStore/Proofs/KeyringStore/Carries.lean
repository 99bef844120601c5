import CredentialStore.Proofs.KeyringStore.Legacy
import CredentialStore.Proofs.KeyringStore.Writes

/-!
# What a keyring carries while calls fail

A write that fails half way may leave a record without a place in the index, if taking it back fails
as well. As long as every write under an identifier writes the same credential, such a record does
no harm: whatever calls fail, a record is the one that it is meant to be, and a place in the index
has a record.

Main statements:

* `loadAll_of_carries` — what is loaded is what can be enumerated;
* `persist_cases` and `set_cases` — a write keeps the invariant, and one that answers can be
  enumerated afterwards.
-/

namespace CredentialStore.KeyringStore

open Op SecretStore

/-- Every record is the one meant for its identifier, and every place in the index has a record. -/
structure Carries (meant : String → Option Credential) (s : SecretStore) : Prop where
  record_eq : ∀ {guid text}, s.entries.find? (credentialKey guid) = some text →
    ∃ c, meant guid = some c ∧ c.guid = guid ∧ (Record.ofCredential c).write = text
  index_records : s.listing = false → ∃ index, storedIndex s.entries = some index ∧
    ∀ guid ∈ index.keys, s.entries.find? (credentialKey guid) ≠ none

variable {meant : String → Option Credential} {s t : SecretStore}

/-- Texts under other keys do not count. -/
theorem Carries.congr (h : Carries meant s) (hlisting : t.listing = s.listing)
    (hrecords : ∀ guid, t.entries.find? (credentialKey guid) = s.entries.find? (credentialKey guid))
    (hindex : t.entries.find? indexKey = s.entries.find? indexKey) : Carries meant t := by
  constructor
  · intro guid text
    rw [hrecords]
    exact h.record_eq
  · rw [hlisting, storedIndex_congr hindex]
    simp only [hrecords]
    exact h.index_records

theorem Carries.of_keeps (h : Carries meant s) (hkeeps : s.Keeps t) : Carries meant t :=
  h.congr hkeeps.listing_eq (fun _ => by rw [hkeeps.entries_eq]) (by rw [hkeeps.entries_eq])

/-- What a keyring holds is carried if it is meant. -/
theorem Holds.carries {l : Ledger} (h : Holds s l)
    (hmeant : ∀ c ∈ l.credentials, meant c.guid = some c) : Carries meant s := by
  constructor
  · intro guid text htext
    obtain ⟨c, hc, rfl, hwrite⟩ := h.keeps.record_iff.1 htext
    exact ⟨c, hmeant c hc, rfl, hwrite⟩
  · intro hlisting
    obtain ⟨index, hstored, hiff⟩ := h.keeps.exists_index hlisting
    refine ⟨index, hstored, fun guid hguid => ?_⟩
    obtain ⟨name, hname⟩ := SortedTable.mem_keys_iff.1 hguid
    obtain ⟨c, hc, hcguid, -⟩ := hiff.1 hname
    rw [h.keeps.record_iff.2 ⟨c, hc, hcguid, rfl⟩]
    exact Option.some_ne_none _

/-- A place in the index has a record that can be enumerated. -/
theorem Carries.isListed_of_mem_index (h : Carries meant s) (hlisting : s.listing = false)
    {index : Index} (hstored : storedIndex s.entries = some index) {guid : String}
    (hguid : guid ∈ index.keys) : IsListed s guid := by
  obtain ⟨index', hstored', hrecords⟩ := h.index_records hlisting
  -- there is one stored index
  have heq : index' = index := Option.some.inj (hstored'.symm.trans hstored)
  exact ⟨hrecords guid (heq ▸ hguid), fun _ => ⟨index, hstored, hguid⟩⟩

/-- A record decodes to the credential that is meant. -/
theorem Carries.recordOf?_eq (h : Carries meant s) {guid : String}
    (hrecord : s.entries.find? (credentialKey guid) ≠ none) :
    ∃ c, meant guid = some c ∧ c.guid = guid ∧ recordOf? s.entries guid = some c := by
  obtain ⟨text, htext⟩ := Option.ne_none_iff_exists'.1 hrecord
  obtain ⟨c, hmeant, rfl, hwrite⟩ := h.record_eq htext
  refine ⟨c, hmeant, rfl, ?_⟩
  rw [recordOf?, htext, Option.bind_some, ← hwrite, decode_write]
  rfl

/-- The credential that is meant is found where calls succeed. -/
theorem yields_get_of_carries (h : Carries meant s) (hs : s.Responds) {guid : String}
    (hrecord : s.entries.find? (credentialKey guid) ≠ none) :
    ∃ c, meant guid = some c ∧ (get guid).Yields s (.ok c) s := by
  obtain ⟨text, htext⟩ := Option.ne_none_iff_exists'.1 hrecord
  obtain ⟨c, hmeant, rfl, hwrite⟩ := h.record_eq htext
  have hload := yields_load_of_some hs htext
  rw [← hwrite, decode_write] at hload
  exact ⟨c, hmeant, hload.bind (yields_pure c s)⟩

/-- What is loaded is what can be enumerated. -/
theorem loadAll_of_carries (h : Carries meant s) {cs : List Credential}
    (hload : loadAll.Yields s (.ok cs) t) {guid : String} :
    IsListed s guid ↔ ∃ c ∈ cs, c.guid = guid := by
  obtain ⟨hmem, -⟩ := (loadAll_cases hload).2 cs rfl
  constructor
  · intro hlisted
    obtain ⟨c, -, hguid, hc⟩ := h.recordOf?_eq hlisted.record_ne
    exact ⟨c, (hmem c).2 ⟨guid, hlisted, hc⟩, hguid⟩
  · rintro ⟨c, hc, rfl⟩
    obtain ⟨guid, hlisted, hrecord⟩ := (hmem c).1 hc
    -- what was loaded from a record has the identifier of that record
    obtain ⟨d, -, hguid, hd⟩ := h.recordOf?_eq hlisted.record_ne
    rw [hrecord] at hd
    cases hd
    rwa [hguid]

/-! ## Tables of texts -/

/-- The second store lists its keys as the first does and has the same of the legacy entry.
-/
structure KeepsLegacy (s t : SecretStore) : Prop where
  listing_eq : t.listing = s.listing
  legacy_eq : t.entries.find? legacyKey = s.entries.find? legacyKey

theorem KeepsLegacy.of_keeps (h : s.Keeps t) : KeepsLegacy s t :=
  ⟨h.listing_eq, by rw [h.entries_eq]⟩

theorem KeepsLegacy.trans {u : SecretStore} (h : KeepsLegacy s t) (h' : KeepsLegacy t u) :
    KeepsLegacy s u :=
  ⟨h'.listing_eq.trans h.listing_eq, h'.legacy_eq.trans h.legacy_eq⟩

section Tables

variable {c : Credential}

theorem keepsLegacy_withRecord (s : SecretStore) (c : Credential) :
    KeepsLegacy s (withRecord s c) :=
  ⟨rfl, (find?_withRecord s c legacyKey).trans (if_neg (credentialKey_ne_legacyKey c.guid))⟩

theorem withRecord_ne_none {guid : String}
    (h : s.entries.find? (credentialKey guid) ≠ none ∨ c.guid = guid) :
    (withRecord s c).entries.find? (credentialKey guid) ≠ none := by
  rw [find?_withRecord]
  split
  · exact Option.some_ne_none _
  · rename_i hkey
    exact h.resolve_right fun heq => hkey (by rw [heq])

/-- A record that is meant may be put. -/
theorem Carries.withRecord (h : Carries meant s) (hmeant : meant c.guid = some c) :
    Carries meant (withRecord s c) := by
  constructor
  · intro guid text htext
    rw [find?_withRecord] at htext
    -- the record is the one that was put, or one from before
    split at htext
    · rename_i hkey
      cases htext
      rw [← credentialKey_inj.1 hkey]
      exact ⟨c, hmeant, rfl, rfl⟩
    · exact h.record_eq htext
  · intro hlisting
    obtain ⟨index, hstored, hrecords⟩ := h.index_records hlisting
    exact ⟨index, (storedIndex_withRecord s c).trans hstored,
      fun guid hguid => withRecord_ne_none (.inl (hrecords guid hguid))⟩

theorem IsListed.withRecord {guid : String} (h : IsListed s guid) :
    IsListed (withRecord s c) guid :=
  ⟨withRecord_ne_none (.inl h.record_ne), fun hlisting => by
    rw [storedIndex_withRecord]
    exact h.mem_index hlisting⟩

theorem keepsLegacy_withoutRecord (s : SecretStore) (guid : String) :
    KeepsLegacy s (withoutRecord s guid) :=
  ⟨rfl, (find?_withoutRecord s guid legacyKey).trans
    (if_neg (Ne.symm (credentialKey_ne_legacyKey guid)))⟩

/-- A record without a place in the index may be removed. -/
theorem Carries.withoutRecord (h : Carries meant s) {guid : String}
    (hfree : ∀ index, storedIndex s.entries = some index → guid ∉ index.keys) :
    Carries meant (withoutRecord s guid) := by
  constructor
  · intro g text htext
    rw [find?_withoutRecord] at htext
    split at htext
    · cases htext
    · exact h.record_eq htext
  · intro hlisting
    obtain ⟨index, hstored, hrecords⟩ := h.index_records hlisting
    refine ⟨index, (storedIndex_withoutRecord s guid).trans hstored, fun g hg => ?_⟩
    -- a record with a place in the index is another one
    have hne : ¬ credentialKey g = credentialKey guid := fun hkey =>
      hfree index hstored (by rwa [← credentialKey_inj.1 hkey])
    rw [find?_withoutRecord, if_neg hne]
    exact hrecords g hg

end Tables

/-! ## Writes, whatever fails -/

section Writes

variable {c : Credential}

theorem Enters.find?_record (h : Enters c s t) (guid : String) :
    t.entries.find? (credentialKey guid) = s.entries.find? (credentialKey guid) :=
  h.find?_eq (credentialKey_ne_indexKey guid)

theorem Enters.keepsLegacy (h : Enters c s t) : KeepsLegacy s t :=
  ⟨h.listing_eq, h.find?_eq (by decide)⟩

/-- The places in the index are those from before and that of the credential. -/
theorem Enters.mem_keys_iff (h : Enters c s t) (hlisting : s.listing = false) :
    ∃ index index', storedIndex s.entries = some index ∧ storedIndex t.entries = some index' ∧
      ∀ guid, guid ∈ index'.keys ↔ guid = c.guid ∨ guid ∈ index.keys := by
  obtain ⟨index, index', hstored, hstored', hfind⟩ := h.exists_index hlisting
  refine ⟨index, index', hstored, hstored', fun guid => ?_⟩
  rw [SortedTable.mem_keys_iff, SortedTable.mem_keys_iff, hfind]
  split
  · rename_i hguid
    exact ⟨fun _ => .inl hguid.symm, fun _ => ⟨c.name, rfl⟩⟩
  · rename_i hguid
    exact ⟨.inr, fun hmem => hmem.resolve_left fun heq => hguid heq.symm⟩

/-- A credential with a record may be entered. -/
theorem Carries.of_enters (h : Carries meant s)
    (hrecord : s.entries.find? (credentialKey c.guid) ≠ none) (henters : Enters c s t) :
    Carries meant t := by
  constructor
  · intro guid text
    rw [henters.find?_record]
    exact h.record_eq
  · intro hlisting
    rw [henters.listing_eq] at hlisting
    obtain ⟨index, index', hstored, hstored', hmem⟩ := henters.mem_keys_iff hlisting
    refine ⟨index', hstored', fun guid hguid => ?_⟩
    rw [henters.find?_record]
    rcases (hmem guid).1 hguid with rfl | hguid
    · exact hrecord
    · exact (h.isListed_of_mem_index hlisting hstored hguid).record_ne

/-- What could be enumerated still can, and what was entered can. -/
theorem IsListed.of_enters (henters : Enters c s t)
    (hrecord : s.entries.find? (credentialKey c.guid) ≠ none) {guid : String}
    (hguid : IsListed s guid ∨ guid = c.guid) : IsListed t guid := by
  constructor
  · rw [henters.find?_record]
    rcases hguid with hlisted | rfl
    · exact hlisted.record_ne
    · exact hrecord
  · intro hlisting
    rw [henters.listing_eq] at hlisting
    obtain ⟨index, index', hstored, hstored', hmem⟩ := henters.mem_keys_iff hlisting
    refine ⟨index', hstored', (hmem guid).2 ?_⟩
    rcases hguid with hlisted | rfl
    · obtain ⟨index₀, hstored₀, hguid⟩ := hlisted.mem_index hlisting
      rw [hstored] at hstored₀
      cases hstored₀
      exact .inr hguid
    · exact .inl rfl

/-- A write of a record that is meant keeps the invariant, and one that answers can be enumerated
with all that could be. -/
theorem persist_cases (h : Carries meant s) (hmeant : meant c.guid = some c)
    (hunlisted : ¬ IsListed s c.guid) {r : Except CredentialError Unit}
    (hpersist : (persist c none).Yields s r t) :
    Carries meant t ∧ KeepsLegacy s t ∧
      (r = .ok () → ∀ guid, IsListed s guid ∨ guid = c.guid → IsListed t guid) := by
  have hrecord : (KeyringStore.withRecord s c).entries.find? (credentialKey c.guid) ≠ none :=
    withRecord_ne_none (.inr rfl)
  cases r with
  | ok u =>
    have henters := enters_of_persist hpersist
    refine ⟨(h.withRecord hmeant).of_enters hrecord henters,
      (keepsLegacy_withRecord s c).trans henters.keepsLegacy, fun _ guid hguid => ?_⟩
    exact .of_enters henters hrecord (hguid.imp_left fun hlisted => hlisted.withRecord)
  | error e =>
    -- what is left matters and not what was answered
    refine and_assoc.1 ⟨?_, fun hr => nomatch hr⟩
    rcases persist_steps hpersist with ⟨e, hsave, -⟩ | ⟨s₁, -, hkeeps₁, hrest⟩
    · rcases put_cases hsave with ⟨he, -⟩ | ⟨-, hkeeps⟩
      · cases he
      · exact ⟨h.of_keeps hkeeps, .of_keeps hkeeps⟩
    rcases hrest with ⟨-, he⟩ | ⟨e', s₂, q, henter, hback, -⟩
    · cases he
    obtain ⟨he, -⟩ | ⟨-, hlisting₁, hkeeps₂⟩ := enter_leaves henter
    · cases he
    -- the record is taken back, or it stays without a place in the index
    have hkeeps := hkeeps₁.trans hkeeps₂
    have h₂ := (h.withRecord hmeant).of_keeps hkeeps
    have hlegacy₂ := (keepsLegacy_withRecord s c).trans (.of_keeps hkeeps)
    -- no place in the index leads to the record, since the identifier could not be enumerated
    have hfree : ∀ index, storedIndex s₂.entries = some index → c.guid ∉ index.keys := by
      intro index hstored hmem
      rw [hkeeps.entries_eq, storedIndex_withRecord] at hstored
      rw [hkeeps₁.listing_eq] at hlisting₁
      exact hunlisted (h.isListed_of_mem_index hlisting₁ hstored hmem)
    rcases discard_remove_cases hback with ⟨-, hkeeps₃⟩ | ⟨-, hkeeps₃⟩
    · exact ⟨(h₂.withoutRecord hfree).of_keeps hkeeps₃,
        (hlegacy₂.trans (keepsLegacy_withoutRecord s₂ c.guid)).trans (.of_keeps hkeeps₃)⟩
    · exact ⟨h₂.of_keeps hkeeps₃, hlegacy₂.trans (.of_keeps hkeeps₃)⟩

/-- Storing a credential that is meant, or one whose identifier can be enumerated already, keeps the
invariant. If it answers, the identifier could not be enumerated before and can be afterwards. -/
theorem set_cases (h : Carries meant s) {fresh : String} {details : Details}
    (hmeant : ∀ c, details.toCredential fresh = .ok c → IsListed s c.guid ∨ meant c.guid = some c)
    {r : Except CredentialError Credential} (hset : (set fresh details).Yields s r t) :
    Carries meant t ∧ KeepsLegacy s t ∧
      ∀ c, r = .ok c → ¬ IsListed s c.guid ∧ details.toCredential fresh = .ok c ∧
        ∀ guid, IsListed s guid ∨ guid = c.guid → IsListed t guid := by
  rcases set_steps hset with ⟨hkeeps, e, rfl⟩ | ⟨existing, c, s₁, q, hload, hd, hunused, hpersist, rfl⟩
  · exact ⟨h.of_keeps hkeeps, .of_keeps hkeeps, fun c hc => nomatch hc⟩
  have hkeeps := (loadAll_cases hload).1
  -- an identifier that could be enumerated would have been found among the loaded ones
  have hunlisted : ¬ IsListed s c.guid := fun hlisted => by
    obtain ⟨d, hmem, hguid⟩ := (loadAll_of_carries h hload).1 hlisted
    exact hunused d hmem hguid
  obtain ⟨h₂, hlegacy, hlisted⟩ := persist_cases (h.of_keeps hkeeps)
    ((hmeant c hd).resolve_left hunlisted) (fun hl => hunlisted (hl.of_keeps hkeeps.symm)) hpersist
  refine ⟨h₂, .trans (.of_keeps hkeeps) hlegacy, fun d hd' => ?_⟩
  cases q with
  | error e => cases hd'
  | ok u =>
    cases hd'
    refine ⟨hunlisted, hd, fun guid hguid => hlisted rfl guid ?_⟩
    exact hguid.imp_left fun h => h.of_keeps hkeeps

end Writes

end CredentialStore.KeyringStore
