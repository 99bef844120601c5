import CredentialStore.Proofs.KeyringStore.Coherent
import CredentialStore.Proofs.Migration.Invariant

/-!
# Keyrings with and without an index

A keyring asks a secret store for its keys where it can, and keeps an index where it cannot. The
keys of credentials come in the order of their identifiers, and so do the entries of the index, so
both ways enumerate the same in the same order. Where no call fails, two secret stores that differ
in this alone answer every turn alike, errors included, and hold the same texts under all keys but
that of the index.

Main statements: `Twins.admits` (the parts of a turn do not tell the stores apart) and
`run_without_listing` (neither does any sequence of turns).
-/

namespace CredentialStore.KeyringStore

open Op SecretStore

variable {s t : SecretStore}

/-- Two secret stores respond, the first of which can list its keys and the second cannot; they hold
the same texts but the index, and the index of the second is in step. -/
structure Twins (s t : SecretStore) : Prop where
  listing_left : s.listing = true
  listing_right : t.listing = false
  responds_left : s.Responds
  responds_right : t.Responds
  find?_eq : ∀ {key}, key ≠ indexKey → t.entries.find? key = s.entries.find? key
  coherent : Coherent t

namespace Twins

theorem find?_record (h : Twins s t) (guid : String) :
    t.entries.find? (credentialKey guid) = s.entries.find? (credentialKey guid) :=
  h.find?_eq (credentialKey_ne_indexKey guid)

theorem isIndexReadable_left (h : Twins s t) : IsIndexReadable s := fun hlisting => by
  rw [h.listing_left] at hlisting
  cases hlisting

theorem isIndexReadable_right (h : Twins s t) : IsIndexReadable t := fun hlisting => by
  obtain ⟨index, hstored, -⟩ := h.coherent.exists_index hlisting
  exact ⟨index, hstored⟩

/-- The same identifiers are enumerated in the same order. -/
theorem recordGuids_eq (h : Twins s t) : recordGuids t.entries = recordGuids s.entries :=
  recordGuids_eq_of_mem_iff (recordGuids_ascending _) fun guid => by
    rw [mem_recordGuids_iff, h.find?_record]

theorem yields_guids_left (h : Twins s t) : guids.Yields s (.ok (recordGuids s.entries)) s :=
  yields_guids_of_listing h.responds_left h.listing_left

theorem yields_guids_right (h : Twins s t) : guids.Yields t (.ok (recordGuids s.entries)) t := by
  rw [← h.recordGuids_eq]
  exact h.coherent.yields_guids h.responds_right

/-! ## Texts that change on both sides -/

/-- A text that is no record and not the index may be put on both sides. -/
theorem insert (h : Twins s t) {key : String} (hkey : guidOf? key = none) (hindex : indexKey ≠ key)
    (text : String) :
    Twins { s with entries := s.entries.insert key text }
      { t with entries := t.entries.insert key text } where
  listing_left := h.listing_left
  listing_right := h.listing_right
  responds_left := h.responds_left.with_entries _
  responds_right := h.responds_right.with_entries _
  find?_eq {key'} hne := by
    rw [SortedTable.find?_insert, SortedTable.find?_insert, h.find?_eq hne]
  coherent := h.coherent.of_keepsBut hkey hindex (keepsBut_insert t key text)

theorem erase (h : Twins s t) {key : String} (hkey : guidOf? key = none)
    (hindex : indexKey ≠ key) :
    Twins { s with entries := s.entries.erase key } { t with entries := t.entries.erase key } where
  listing_left := h.listing_left
  listing_right := h.listing_right
  responds_left := h.responds_left.with_entries _
  responds_right := h.responds_right.with_entries _
  find?_eq {key'} hne := by
    rw [SortedTable.find?_erase, SortedTable.find?_erase, h.find?_eq hne]
  coherent := h.coherent.of_keepsBut hkey hindex (keepsBut_erase t key)

/-! ## The parts of a turn -/

theorem respects_retrieve {key : String} (hindex : key ≠ indexKey) :
    (retrieve key).Respects Twins := by
  intro s t h
  have hretrieve := yields_retrieve h.responds_right key
  rw [h.find?_eq hindex] at hretrieve
  exact ⟨_, s, t, yields_retrieve h.responds_left key, hretrieve, h⟩

theorem respects_read {key : String} (hindex : key ≠ indexKey) : (read key).Respects Twins :=
  (respects_retrieve hindex).mapError _

theorem respects_remove {key : String} (hkey : guidOf? key = none) (hindex : indexKey ≠ key) :
    (Functor.discard (remove key)).Respects Twins := fun _ _ h =>
  ⟨_, _, _, (yields_remove h.responds_left key).discard, (yields_remove h.responds_right key).discard,
    h.erase hkey hindex⟩

/-- A credential is written on both sides, and entered on the second. -/
theorem respects_persist (c : Credential) (previous : Option Credential) :
    (persist c previous).Respects Twins := by
  intro s t h
  obtain ⟨s', hleft, hs', henters⟩ :=
    persist_of_responds h.responds_left h.isIndexReadable_left c previous
  obtain ⟨t', hright, ht', henters'⟩ :=
    persist_of_responds h.responds_right h.isIndexReadable_right c previous
  refine ⟨_, s', t', hleft, hright, ?_⟩
  exact {
    listing_left := henters.listing_eq.trans h.listing_left
    listing_right := henters'.listing_eq.trans h.listing_right
    responds_left := hs'
    responds_right := ht'
    find?_eq := fun {key} hkey => by
      rw [henters.find?_eq hkey, henters'.find?_eq hkey, find?_withRecord, find?_withRecord,
        h.find?_eq hkey]
    coherent := h.coherent.of_enters henters' }

/-- A record is removed on both sides, and its place in the index on the second. -/
theorem respects_removeEntry (guid text : String) : (removeEntry guid text).Respects Twins := by
  intro s t h
  obtain ⟨s', hleft, hs', hremoves⟩ :=
    removeEntry_of_responds h.responds_left h.isIndexReadable_left guid text
  obtain ⟨t', hright, ht', hremoves'⟩ :=
    removeEntry_of_responds h.responds_right h.isIndexReadable_right guid text
  refine ⟨_, s', t', hleft, hright, ?_⟩
  exact {
    listing_left := hremoves.listing_eq.trans h.listing_left
    listing_right := hremoves'.listing_eq.trans h.listing_right
    responds_left := hs'
    responds_right := ht'
    find?_eq := fun {key} hkey => by
      rw [hremoves.find?_eq hkey, hremoves'.find?_eq hkey, h.find?_eq hkey]
    coherent := h.coherent.of_removes hremoves' }

theorem respects_removeRecord (guid : String) : (removeRecord guid).Respects Twins := by
  refine (respects_read (credentialKey_ne_indexKey guid)).bind fun text? => ?_
  cases text? with
  | none => exact .throw _
  | some text => exact respects_removeEntry guid text

theorem respects_reset : reset.Respects Twins := by
  intro s t h
  refine ⟨_, _, _, yields_reset h.responds_left h.yields_guids_left,
    yields_reset h.responds_right h.yields_guids_right, ?_⟩
  obtain ⟨hindex, hpreferred, hin, hout⟩ := find?_eraseAll t.entries (recordGuids s.entries)
  refine ⟨h.listing_left, h.listing_right, h.responds_left.with_entries _,
    h.responds_right.with_entries _, fun hkey => find?_eraseAll_congr (h.find?_eq hkey) _, ?_⟩
  -- all records have been enumerated, so none of the keys is left
  refine coherent_of_unused fun key hkey => ?_
  rcases hkey with ⟨guid, rfl⟩ | rfl | rfl
  · by_cases hguid : guid ∈ recordGuids s.entries
    · exact hin guid hguid
    · refine (hout guid hguid).trans ?_
      rw [h.find?_record]
      exact Classical.not_not.1 fun hne =>
        hguid (mem_recordGuids_iff.2 (Option.ne_none_iff_exists'.1 hne))
  · exact hindex
  · exact hpreferred

/-- The parts of a turn do not tell the stores apart. -/
theorem admits : Admits Twins where
  guids _ _ h := ⟨_, _, _, h.yields_guids_left, h.yields_guids_right, h⟩
  load guid := load_closed (Respects.closed _) (respects_read (credentialKey_ne_indexKey guid))
  defaultGuid := (respects_read (by decide)).bind fun _ => .pure _
  persist := respects_persist
  removeRecord := respects_removeRecord
  prefer guid _ _ h := ⟨_, _, _, yields_put h.responds_left defaultKey guid,
    yields_put h.responds_right defaultKey guid, h.insert (by decide) (by decide) guid⟩
  preferNone := respects_remove (by decide) (by decide)
  reset := respects_reset
  legacyList := legacyList_respects (respects_retrieve (by decide))
  legacyReset := (respects_remove (by decide) (by decide)).bind fun _ => .pure _

/-- Two stores that hold at most the same legacy text. -/
theorem withTable (table : Option String) :
    Twins (LegacyStore.withTable table {}) (LegacyStore.withTable table { listing := false }) := by
  have hempty : Twins {} { listing := false } :=
    ⟨rfl, rfl, ⟨rfl, rfl⟩, ⟨rfl, rfl⟩, fun _ => rfl, coherent_of_unused fun _ _ => rfl⟩
  cases table with
  | none => exact hempty.erase (by decide) (by decide)
  | some text => exact hempty.insert (by decide) (by decide) text

end Twins

/-! ## Runs -/

/-- The answers to turns that are taken one after the other, and what they leave. -/
def run : List Turn → SecretStore → List (Except CredentialError Answer) × SecretStore
  | [], s => ([], s)
  | x :: rest, s =>
    let (answers, t) := run rest (x.take s).state
    ((x.take s).answer :: answers, t)

/-- Turns are answered alike, and leave stores that are answered alike. -/
theorem Twins.run (h : Twins s t) (turns : List Turn) :
    (run turns t).1 = (run turns s).1 ∧ Twins (run turns s).2 (run turns t).2 := by
  -- on the turns: the first one leaves twins, and the rest starts with those
  induction turns generalizing s t with
  | nil => exact ⟨rfl, h⟩
  | cons x rest ih =>
    have hx := Twins.admits.take x
    obtain ⟨hanswers, hleft⟩ := ih (hx.state h)
    exact ⟨congrArg₂ List.cons (hx.answer_eq h).symm hanswers, hleft⟩

/-- Where no call fails, a keyring answers every sequence of turns with an index as it does without
one, and leaves the same texts under all keys but that of the index. -/
theorem run_without_listing (table : Option String) (turns : List Turn) :
    let listed := run turns (LegacyStore.withTable table {})
    let indexed := run turns (LegacyStore.withTable table { listing := false })
    indexed.1 = listed.1 ∧
      ∀ key, key ≠ indexKey → indexed.2.entries.find? key = listed.2.entries.find? key := by
  obtain ⟨hanswers, hleft⟩ := (Twins.withTable table).run turns
  exact ⟨hanswers, fun key hkey => hleft.find?_eq hkey⟩

end CredentialStore.KeyringStore
