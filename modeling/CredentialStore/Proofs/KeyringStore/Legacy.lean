import CredentialStore.KeyringStore.Legacy
import CredentialStore.Proofs.Guid
import CredentialStore.Proofs.KeyringStore.Holds

/-!
# What reading and removing the legacy entry leaves

The legacy entry has a key of its own. Reading it changes no text and removing
it no other text, whatever calls fail. Main statements: `LegacyStore.list_cases`,
`LegacyStore.spares_of_reset` and `KeyringStore.Holds.of_spares` (a keyring in the same secret store
holds what it held).
-/

namespace CredentialStore

open Op SecretStore

namespace LegacyStore

open KeyringStore (legacyKey)

/-- The second store differs from the first in the legacy entry at most. -/
structure Spares (s t : SecretStore) : Prop where
  listing_eq : t.listing = s.listing
  find?_eq : ∀ {key}, key ≠ legacyKey → t.entries.find? key = s.entries.find? key
  responds : s.Responds → t.Responds

variable {s t u : SecretStore}

/-- The values by name in the text of the entry; a store without one has none. -/
def tableOf : Option String → Except CredentialError (OrderedTable Json)
  | none => .ok .empty
  | some text =>
    match read? text with
    | some t => .ok t
    | none => .error (.corrupted legacyKey)

/-- The credentials in the text of the entry. -/
def credentialsOf (text? : Option String) : Except CredentialError (List Credential) := do
  (← tableOf text?).entries.mapM fun (key, j) => decode key j

theorem decode_of_decodeValue {key : String} {j : Json} {c : Credential}
    (h : decodeValue key j = .ok c) :
    decode key j = .ok { c with
      name := if c.name = "" then key else c.name
      guid := if c.guid = "" then Guid.ofName key else c.guid } := by
  unfold decode
  rw [h]

/-- What is decoded has an identifier, its own or the one that its name determines. -/
theorem guid_ne_empty_of_decode {key : String} {j : Json} {c : Credential}
    (h : decode key j = .ok c) : c.guid ≠ "" := by
  rw [decode] at h
  -- a credential without an identifier is given the one of its name
  split at h
  · cases h
  · cases h
    dsimp only
    split
    · exact Guid.ofName_ne_empty key
    · assumption

/-- All credentials of the entry have identifiers. -/
theorem guid_ne_empty {text? : Option String} {cs : List Credential}
    (h : credentialsOf text? = .ok cs) {c : Credential} (hc : c ∈ cs) : c.guid ≠ "" := by
  cases htable : tableOf text? with
  | error e =>
    rw [credentialsOf, htable] at h
    cases h
  | ok table =>
    rw [credentialsOf, htable] at h
    obtain ⟨e, -, hdecode⟩ := exists_of_mapM_ok h hc
    exact guid_ne_empty_of_decode hdecode

theorem load_cases {r : Except CredentialError (OrderedTable Json)} (h : load.Yields s r t) :
    s.Keeps t ∧ (s.Responds → t = s) ∧
      (r = tableOf (s.entries.find? legacyKey) ∨ ∃ e, r = .error e) := by
  obtain ⟨q, s₁, hretrieve, hrest⟩ := h.of_bind_attempt
  obtain ⟨hkeeps, hq⟩ := retrieve_cases hretrieve
  -- what comes after the call touches nothing
  have hrest : t = s₁ ∧ (r = tableOf (s.entries.find? legacyKey) ∨ ∃ e, r = .error e) := by
    rcases hq with rfl | ⟨e, rfl⟩
    · cases htext : s.entries.find? legacyKey with
      | none =>
        rw [htext] at hrest
        obtain ⟨rfl, rfl⟩ := (yields_pure _ s₁).unique hrest
        exact ⟨rfl, .inl rfl⟩
      | some text =>
        rw [htext] at hrest
        dsimp only at hrest
        rw [tableOf]
        cases hread : read? text with
        | none =>
          rw [hread] at hrest
          obtain ⟨rfl, rfl⟩ := (yields_throw _ s₁).unique hrest
          exact ⟨rfl, .inl rfl⟩
        | some table =>
          rw [hread] at hrest
          obtain ⟨rfl, rfl⟩ := (yields_pure _ s₁).unique hrest
          exact ⟨rfl, .inl rfl⟩
    · obtain ⟨rfl, rfl⟩ := (yields_throw _ s₁).unique hrest
      exact ⟨rfl, .inr ⟨_, rfl⟩⟩
  obtain ⟨rfl, hr⟩ := hrest
  exact ⟨hkeeps, fun hs => ((yields_retrieve hs _).unique hretrieve).2.symm, hr⟩

/-- A list leaves all texts, and answers with the credentials of the entry if it does not fail. -/
theorem list_cases {r : Except CredentialError (List Credential)} (h : list.Yields s r t) :
    s.Keeps t ∧ (s.Responds → t = s) ∧
      (r = credentialsOf (s.entries.find? legacyKey) ∨ ∃ e, r = .error e) := by
  rcases h.bind_cases with ⟨e, hload, rfl⟩ | ⟨table, s₁, hload, hrest⟩
  · obtain ⟨hkeeps, hresponds, -⟩ := load_cases hload
    exact ⟨hkeeps, hresponds, .inr ⟨e, rfl⟩⟩
  · obtain ⟨hkeeps, hresponds, htable | ⟨e, he⟩⟩ := load_cases hload
    · obtain ⟨hr, rfl⟩ := hrest
      refine ⟨hkeeps, hresponds, .inl ?_⟩
      rw [credentialsOf, ← htable]
      exact hr.symm
    · cases he

/-- The entry counts as present where reading it answers with a text; a read that fails counts as
one that finds nothing. -/
theorem isPresent_cases {r : Except CredentialError Bool} (h : isPresent.Yields s r t) :
    s.Keeps t ∧
      ((r = .ok true ∧ ∃ text, (retrieve legacyKey s).answer = .ok (some text)) ∨
        r = .ok false ∧ ∀ text, (retrieve legacyKey s).answer ≠ .ok (some text)) := by
  obtain ⟨q, s₁, hretrieve, hrest⟩ := h.of_bind_attempt
  have hkeeps := (retrieve_cases hretrieve).1
  rw [hretrieve.1]
  rcases q with e | _ | text
  · obtain ⟨rfl, rfl⟩ := (yields_pure false s₁).unique hrest
    exact ⟨hkeeps, .inr ⟨rfl, nofun⟩⟩
  · obtain ⟨rfl, rfl⟩ := (yields_pure false s₁).unique hrest
    exact ⟨hkeeps, .inr ⟨rfl, nofun⟩⟩
  · obtain ⟨rfl, rfl⟩ := (yields_pure true s₁).unique hrest
    exact ⟨hkeeps, .inl ⟨rfl, text, rfl⟩⟩

theorem spares_of_list {r : Except CredentialError (List Credential)} (h : list.Yields s r t) :
    Spares s t := by
  obtain ⟨hkeeps, hresponds, -⟩ := list_cases h
  exact ⟨hkeeps.listing_eq, fun _ => by rw [hkeeps.entries_eq], fun hs => (hresponds hs) ▸ hs⟩

/-- A removal leaves all other texts. -/
theorem spares_of_reset {r : Except CredentialError ResetOutcome} (h : reset.Yields s r t) :
    Spares s t := by
  obtain ⟨q, hdiscard, -⟩ := h.of_map
  have hkeeps := keepsBut_of_remove hdiscard
  refine ⟨hkeeps.listing_eq, hkeeps.find?_eq, fun hs => ?_⟩
  obtain ⟨-, rfl⟩ := (yields_remove hs legacyKey).discard.unique hdiscard
  exact hs.with_entries _

end LegacyStore

/-- A keyring holds what it held, whatever becomes of the legacy entry. -/
theorem KeyringStore.Holds.of_spares {s t : SecretStore} {l : Ledger} (h : KeyringStore.Holds s l)
    (hspares : LegacyStore.Spares s t) : KeyringStore.Holds t l := by
  refine ⟨hspares.responds h.responds, ?_, ?_⟩
  · rw [hspares.listing_eq]
    refine h.keeps.congr (fun guid => hspares.find?_eq ?_) (hspares.find?_eq (by decide))
    exact KeyringStore.credentialKey_ne_legacyKey guid
  · rw [hspares.find?_eq (by decide)]
    exact h.preferred_eq

end CredentialStore
