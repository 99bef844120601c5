import CredentialStore.Proofs.KeyringStore.Coherent
import CredentialStore.Proofs.KeyringStore.Listing

/-!
# Identifiers in a keyring

The identifier of a credential stands in the key of its record, in the envelope and in the data, and
each of the last two may be missing. The envelope has to tell the identifier of the key
(`load_credential`), and the data that of the envelope (`to_credential`); but what is missing agrees
with everything. So whatever texts a secret store holds, a credential is found under its own
identifier and under no other, except by the empty one: a record under the key without an
identifier, whose envelope tells none either, is given out with any identifier that its data tells.

Main statements:

* `guid_of_get` — what is found by an identifier has it;
* `exists_of_list` — what is listed are the records of some identifiers in ascending order;
* `faithful_but_for_empty` — what is listed is what is found, but for the record of the empty
  identifier; and when there is no exception.
-/

namespace CredentialStore.KeyringStore

open Op SecretStore

variable {s t : SecretStore} {guid : String} {c : Credential} {cs : List Credential}

/-! ## What is found -/

/-- What is found is what the record decodes to, whatever calls failed before. -/
theorem recordOf?_of_get (hkeeps : s.Keeps t) (h : (service.get guid t).answer = .ok c) :
    recordOf? s.entries guid = some c := by
  have hget : (get guid).Yields t (.ok c) (get guid t).state := ⟨h, rfl⟩
  obtain ⟨c?, u, hload, hrest⟩ := hget.bind_ok
  obtain ⟨-, ⟨hc, -⟩ | ⟨e, he⟩⟩ := load_cases hload
  · cases hc
    rw [hkeeps.entries_eq] at hrest
    cases hrecord : recordOf? s.entries guid with
    | none =>
      rw [hrecord] at hrest
      cases (hrest.unique (yields_throw _ u)).1
    | some d =>
      rw [hrecord] at hrest
      cases (hrest.unique (yields_pure d u)).1
      rfl
  · cases he

theorem guid_of_get (hkeeps : s.Keeps t) (hguid : guid ≠ "")
    (h : (service.get guid t).answer = .ok c) : c.guid = guid :=
  guid_of_recordOf? hguid (recordOf?_of_get hkeeps h)

/-! ## What is listed -/

/-- The credentials have different identifiers, and each one is found by its own as soon as calls
succeed. -/
structure AreFound (s : SecretStore) (cs : List Credential) : Prop where
  guids_nodup : (cs.map (·.guid)).Nodup
  get_eq : ∀ c ∈ cs, (service.get c.guid s.restored).answer = .ok c

/-- What is listed are the records of the identifiers that are enumerated. -/
theorem exists_of_list (hkeeps : s.Keeps t) (h : (service.list t).answer = .ok cs) :
    ∃ gs : List String, gs.Pairwise (· < ·) ∧ gs.filterMap (recordOf? s.entries) = cs := by
  have hload : loadAll.Yields t (.ok cs) (loadAll t).state := ⟨h, rfl⟩
  have hlisted : listed t.restored = .ok cs :=
    ((yields_listed (responds_restored t)).unique (yields_loadAll_restored hload)).1
  obtain ⟨gs, hgs, hcollected⟩ := listed_eq_ok_iff.1 hlisted
  have hcs : gs.filterMap (recordOf? t.entries) = cs := (collected_eq_ok_iff.1 hcollected).2
  rw [hkeeps.entries_eq] at hcs
  exact ⟨gs, ascending_of_enumerated hgs, hcs⟩

/-- Records that tell the identifiers under which they are kept are found by what they tell. -/
theorem areFound_of_guid_eq {gs : List String} (hgs : gs.Pairwise (· < ·))
    (hguid : ∀ guid ∈ gs, ∀ c, recordOf? s.entries guid = some c → c.guid = guid) :
    AreFound s (gs.filterMap (recordOf? s.entries)) := by
  constructor
  · -- the identifiers of the credentials are some of those that were looked for
    have hguids : (gs.filterMap (recordOf? s.entries)).map (·.guid) =
        gs.filter fun guid => (recordOf? s.entries guid).isSome := by
      rw [List.map_filterMap, ← List.filterMap_eq_filter]
      refine List.filterMap_congr fun guid hmem => ?_
      cases hrecord : recordOf? s.entries guid with
      | none => simp [Option.guard, hrecord]
      | some c => simp [Option.guard, hrecord, hguid guid hmem c hrecord]
    rw [hguids]
    refine (hgs.imp fun {a b} hlt => ?_).filter _
    rintro rfl
    exact String.lt_irrefl a hlt
  · intro c hc
    obtain ⟨guid, hmem, hrecord⟩ := List.mem_filterMap.1 hc
    rw [hguid guid hmem c hrecord]
    exact (get_eq_ok_iff (responds_restored s)).2 hrecord

/-- The empty identifier comes before all others. -/
theorem ne_empty_of_lt {a b : String} (h : a < b) : b ≠ "" := by
  rintro rfl
  exact List.not_lt_nil _ h

/-- What is listed besides a record of the empty identifier. -/
theorem exists_areFound_of_list (hkeeps : s.Keeps t) (h : (service.list t).answer = .ok cs) :
    ∃ rest, (cs = rest ∨ ∃ c, recordOf? s.entries "" = some c ∧ cs = c :: rest) ∧
      AreFound s rest ∧ ∀ c ∈ rest, c.guid ≠ "" := by
  obtain ⟨gs, hgs, rfl⟩ := exists_of_list hkeeps h
  -- identifiers that are not empty give what is left
  have hrest : ∀ gs : List String, gs.Pairwise (· < ·) → (∀ guid ∈ gs, guid ≠ "") →
      AreFound s (gs.filterMap (recordOf? s.entries)) ∧
        ∀ c ∈ gs.filterMap (recordOf? s.entries), c.guid ≠ "" := by
    intro gs hgs hne
    refine ⟨areFound_of_guid_eq hgs fun guid hmem c hc => guid_of_recordOf? (hne guid hmem) hc, ?_⟩
    intro c hc
    obtain ⟨guid, hmem, hrecord⟩ := List.mem_filterMap.1 hc
    rw [guid_of_recordOf? (hne guid hmem) hrecord]
    exact hne guid hmem
  cases gs with
  | nil => exact ⟨[], .inl rfl, hrest [] .nil (by simp)⟩
  | cons first others =>
    obtain ⟨hfirst, hothers⟩ := List.pairwise_cons.1 hgs
    have hne : ∀ guid ∈ others, guid ≠ "" := fun guid hmem => ne_empty_of_lt (hfirst guid hmem)
    by_cases hempty : first = ""
    · subst hempty
      refine ⟨_, ?_, hrest others hothers hne⟩
      cases hrecord : recordOf? s.entries "" with
      | none => exact .inl (List.filterMap_cons_none hrecord)
      | some c => exact .inr ⟨c, rfl, List.filterMap_cons_some hrecord⟩
    · refine ⟨_, .inl rfl, hrest _ hgs fun guid hmem => ?_⟩
      rcases List.mem_cons.1 hmem with rfl | hmem
      · exact hempty
      · exact hne guid hmem

/-! ## Faithful keyrings -/

/-- Whatever calls fail, what is found by an identifier has it, and what is listed is what is found.
-/
structure IsFaithful (s : SecretStore) : Prop where
  guid_of_get : ∀ t, s.Keeps t → ∀ guid c, (service.get guid t).answer = .ok c → c.guid = guid
  areFound_of_list : ∀ t, s.Keeps t → ∀ cs, (service.list t).answer = .ok cs → AreFound s cs

theorem isFaithful_of_empty (h : ∀ c, recordOf? s.entries "" = some c → c.guid = "") :
    IsFaithful s := by
  have hguid : ∀ guid c, recordOf? s.entries guid = some c → c.guid = guid := by
    intro guid c hrecord
    by_cases hempty : guid = ""
    · subst hempty
      exact h c hrecord
    · exact guid_of_recordOf? hempty hrecord
  refine ⟨fun t hkeeps guid c hget => hguid guid c (recordOf?_of_get hkeeps hget), ?_⟩
  intro t hkeeps cs hlist
  obtain ⟨gs, hgs, rfl⟩ := exists_of_list hkeeps hlist
  exact areFound_of_guid_eq hgs fun guid _ => hguid guid

/-- What is found by an identifier that is not empty has it, and what is listed is what is found by
such identifiers, except that a record under the empty identifier comes first. A keyring is faithful
exactly if that record, where it can be decoded, tells no identifier. -/
theorem faithful_but_for_empty (s : SecretStore) :
    (∀ t, s.Keeps t → ∀ guid c, guid ≠ "" → (service.get guid t).answer = .ok c →
      c.guid = guid) ∧
    (∀ t, s.Keeps t → ∀ cs, (service.list t).answer = .ok cs →
      ∃ rest, (cs = rest ∨ ∃ c, recordOf? s.entries "" = some c ∧ cs = c :: rest) ∧
        AreFound s rest ∧ ∀ c ∈ rest, c.guid ≠ "") ∧
    (IsFaithful s ↔ ∀ c, recordOf? s.entries "" = some c → c.guid = "") := by
  refine ⟨fun t hkeeps guid c hguid => guid_of_get hkeeps hguid,
    fun t hkeeps cs => exists_areFound_of_list hkeeps, fun h c hrecord => ?_, isFaithful_of_empty⟩
  -- the record is found by the empty identifier
  exact h.guid_of_get s.restored (keeps_restored s) "" c
    ((get_eq_ok_iff (responds_restored s)).2 hrecord)

/-- A record under the key without an identifier, with an identifier in its data alone. -/
def misfiled : SecretStore where
  entries := SortedTable.empty.insert (credentialKey "")
    "\x7b\"version\":1,\"data\":\x7b\"guid\":\"g\",\"name\":\"work\"\x7d\x7d"

/-- The credential of that record. -/
def misfiledCredential : Credential :=
  { guid := "g", name := "work" }

theorem not_isFaithful_misfiled :
    ¬ IsFaithful misfiled ∧ (service.get "" misfiled).answer = .ok misfiledCredential ∧
      (service.list misfiled).answer = .ok [misfiledCredential] ∧
      (service.get misfiledCredential.guid misfiled).answer = .error (.notFound "g") := by
  have hrecord : recordOf? misfiled.entries "" = some misfiledCredential := by decide +kernel
  have hiff := (faithful_but_for_empty misfiled).2.2
  refine ⟨fun h => ?_, (get_eq_ok_iff ⟨rfl, rfl⟩).2 hrecord, by decide +kernel, by decide +kernel⟩
  exact absurd (hiff.1 h _ hrecord) (by decide)

end CredentialStore.KeyringStore
