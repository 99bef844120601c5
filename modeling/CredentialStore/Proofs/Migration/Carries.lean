import CredentialStore.Proofs.KeyringStore.Carries
import CredentialStore.Proofs.Migration.World

/-!
# What a backend carries while calls fail

The invariant of a keyring whose calls may fail, for both backends: every credential that is stored
is the one that is meant for its identifier. A file fails only at the disk, and then it is not
followed any further.

Main statements, for a backend that carries what is meant:

* `Backend.Carries.list` and `Backend.Carries.set` — what is listed, and what a write adds;
* `Backend.Carries.get` — what is listed is found once calls succeed again.
-/

namespace CredentialStore

open Op

/-- The world with no rules for failing calls. -/
def World.restored (w : World) : World :=
  { w with store := w.store.restored, other := w.other.restored }

namespace Backend

variable {meant : String → Option Credential} {b : Backend} {w w' : World}

/-- Every credential that is stored is the one meant for its identifier. -/
def Carries (meant : String → Option Credential) (w : World) : Backend → Prop
  | .file path => ∃ l, FileStore.Holds path w.disk l ∧ Ledger.Valid l.credentials ∧
      ∀ c ∈ l.credentials, meant c.guid = some c
  | .keyring => KeyringStore.Carries meant w.store

/-- A credential with an identifier is stored and can be enumerated. -/
def Lists (w : World) (guid : String) : Backend → Prop
  | .file path => ∃ l, FileStore.Holds path w.disk l ∧ Ledger.Valid l.credentials ∧
      ∃ c ∈ l.credentials, c.guid = guid
  | .keyring => KeyringStore.IsListed w.store guid

/-- Whether an operation failed at the disk that a file is on; a keyring is not on one. -/
def FailedAtFile {α : Type} (r : Except CredentialError α) : Backend → Prop
  | .file _ => FailedAtDisk r
  | .keyring => False

theorem not_failedAtFile_ok {α : Type} (b : Backend) (a : α) : ¬ b.FailedAtFile (.ok a) := by
  cases b <;> exact id

/-- What a file holds is known from what it lists. -/
theorem credentials_eq {path : String} {d : Disk} {l l' : Ledger} (h : FileStore.Holds path d l)
    (hv : Ledger.Valid l.credentials) (h' : FileStore.Holds path d l')
    (hv' : Ledger.Valid l'.credentials) : l.credentials = l'.credentials :=
  Except.ok.inj ((FileStore.yields_list h hv).unique (FileStore.yields_list h' hv')).1

/-- What a backend holds is carried if it is meant. -/
theorem Holds.carries {l : Ledger} (h : b.Holds w.restored l) (hv : Ledger.Valid l.credentials)
    (hmeant : ∀ c ∈ l.credentials, meant c.guid = some c) : b.Carries meant w := by
  cases b with
  | file path => exact ⟨l, h, hv, hmeant⟩
  | keyring =>
    exact (KeyringStore.Holds.carries h hmeant).of_keeps (SecretStore.keeps_restored w.store).symm

/-! ## What the source does -/

section Legacy

variable {shelf : Shelf} {s : SecretStore} (hspares : LegacyStore.Spares (shelf.part w) s)

include hspares

theorem Carries.of_legacy (h : b.Carries meant w) : b.Carries meant (shelf.put w s) := by
  cases b with
  | file path => cases shelf <;> exact h
  | keyring =>
    cases shelf with
    | store =>
      refine KeyringStore.Carries.congr h hspares.listing_eq (fun guid => hspares.find?_eq ?_)
        (hspares.find?_eq (by decide))
      exact KeyringStore.credentialKey_ne_legacyKey guid
    | other => exact h

theorem Lists.of_legacy {guid : String} (h : b.Lists w guid) : b.Lists (shelf.put w s) guid := by
  cases b with
  | file path => cases shelf <;> exact h
  | keyring =>
    cases shelf with
    | store =>
      refine KeyringStore.IsListed.congr h hspares.listing_eq (fun guid => hspares.find?_eq ?_)
        (hspares.find?_eq (by decide))
      exact KeyringStore.credentialKey_ne_legacyKey guid
    | other => exact h

end Legacy

/-! ## What the target does -/

/-- A list changes nothing that counts, and tells what can be enumerated. -/
theorem Carries.list (h : b.Carries meant w) {r : Except CredentialError (List Credential)}
    (hlist : b.service.list.Yields w r w') :
    b.Carries meant w' ∧ (∀ shelf : Shelf, shelf.text w' = shelf.text w) ∧
      ∀ ds, r = .ok ds → ∀ d ∈ ds, b.Lists w' d.guid := by
  cases b with
  | file path =>
    obtain ⟨l, hholds, hv, hmeant⟩ := h
    obtain ⟨d, hpart, rfl⟩ := hlist.of_zoom
    obtain ⟨rfl, rfl⟩ := (FileStore.yields_list hholds hv).unique hpart
    refine ⟨⟨l, hholds, hv, hmeant⟩, fun shelf => by cases shelf <;> rfl, fun ds hds c hc => ?_⟩
    cases hds
    exact ⟨l, hholds, hv, c, hc, rfl⟩
  | keyring =>
    obtain ⟨t, hpart, rfl⟩ := hlist.of_zoom
    obtain ⟨hkeeps, -⟩ := KeyringStore.loadAll_cases hpart
    refine ⟨KeyringStore.Carries.of_keeps h hkeeps, fun shelf => ?_, fun ds hds c hc => ?_⟩
    · -- the legacy entry is under another key, or in another store
      cases shelf with
      | store => exact congrArg (·.find? KeyringStore.legacyKey) hkeeps.entries_eq
      | other => rfl
    · cases hds
      exact ((KeyringStore.loadAll_of_carries h hpart).2 ⟨c, hc, rfl⟩).of_keeps hkeeps

/-- Storing a credential that is meant, or one whose identifier is listed already, keeps the
invariant, and one that is stored is listed afterwards with all that were. -/
theorem Carries.set (h : b.Carries meant w) {fresh : String} (hfresh : fresh ≠ "")
    {details : Details}
    (hmeant : ∀ c, details.toCredential fresh = .ok c → b.Lists w c.guid ∨ meant c.guid = some c)
    {r : Except CredentialError Credential} (hset : (b.service.set fresh details).Yields w r w')
    (hfile : ¬ b.FailedAtFile r) :
    b.Carries meant w' ∧ (∀ shelf : Shelf, shelf.text w' = shelf.text w) ∧
      ∀ c, r = .ok c → details.toCredential fresh = .ok c ∧
        ∀ guid, b.Lists w guid ∨ guid = c.guid → b.Lists w' guid := by
  cases b with
  | file path =>
    obtain ⟨l, hholds, hv, hkept⟩ := h
    obtain ⟨d, hpart, rfl⟩ := hset.of_zoom
    refine (and_left_comm.1 ⟨fun shelf => by cases shelf <;> rfl, ?_⟩)
    -- a file follows the ledger: the new credential is put at the end, and if its identifier had
    -- been listed it would not have been stored
    rcases FileStore.follows_set hholds hv fresh details with ⟨e, d', hio⟩ | ⟨d', hexact, hd'⟩
    · obtain ⟨rfl, -⟩ := hpart.unique hio
      exact absurd rfl hfile
    · obtain ⟨rfl, rfl⟩ := hpart.unique hexact
      have hv' := hv.set details hfresh
      rcases Ledger.set_cases l fresh details with ⟨e, heq⟩ | ⟨c, hd, -, hunused, heq⟩
      · rw [heq] at hd' ⊢
        exact ⟨⟨l, hd', hv, hkept⟩, fun c hc => nomatch hc⟩
      · rw [heq] at hd' hv' ⊢
        have hc : meant c.guid = some c := by
          -- the ledger takes no identifier twice
          refine (hmeant c hd).resolve_left ?_
          rintro ⟨l', hholds', hv', x, hx, hguid⟩
          rw [← credentials_eq hholds hv hholds' hv'] at hx
          exact hunused x hx hguid
        refine ⟨⟨_, hd', hv', fun x hx => ?_⟩, fun c' hc' => ?_⟩
        · rcases List.mem_append.1 hx with hx | hx
          · exact hkept x hx
          · rw [List.mem_singleton.1 hx]
            exact hc
        · cases hc'
          refine ⟨hd, fun guid hguid => ⟨_, hd', hv', ?_⟩⟩
          rcases hguid with ⟨l', hholds', hv', x, hx, hguid⟩ | rfl
          · rw [← credentials_eq hholds hv hholds' hv'] at hx
            exact ⟨x, List.mem_append_left [c] hx, hguid⟩
          · exact ⟨c, List.mem_append_right _ (List.mem_singleton_self c), rfl⟩
  | keyring =>
    obtain ⟨t, hpart, rfl⟩ := hset.of_zoom
    obtain ⟨hafter, hlegacy, hlisted⟩ := KeyringStore.set_cases h hmeant hpart
    refine ⟨hafter, fun shelf => ?_, fun c hc => (hlisted c hc).2⟩
    cases shelf with
    | store => exact hlegacy.legacy_eq
    | other => rfl

/-- What is listed is found once calls succeed again. -/
theorem Carries.get (h : b.Carries meant w) {guid : String} (hlists : b.Lists w guid) :
    ∃ c, meant guid = some c ∧ (b.service.get guid w.restored).answer = .ok c := by
  cases b with
  | file path =>
    obtain ⟨l, hholds, hv, hmeant⟩ := h
    obtain ⟨l', hholds', hv', c, hc, rfl⟩ := hlists
    -- what is listed is in the ledger that is held
    rw [← credentials_eq hholds hv hholds' hv'] at hc
    have hfind : l.find? c.guid = some c := (Ledger.find?_eq_some_iff hv).2 ⟨hc, rfl⟩
    refine ⟨c, hmeant c hc, ?_⟩
    have hget := (FileStore.yields_get hholds hv c.guid).1
    rw [Ledger.get, hfind] at hget
    exact hget
  | keyring =>
    obtain ⟨c, hmeant, hget⟩ := KeyringStore.yields_get_of_carries
      (KeyringStore.Carries.of_keeps h (SecretStore.keeps_restored w.store))
      (SecretStore.responds_restored w.store) hlists.record_ne
    exact ⟨c, hmeant, hget.1⟩

end Backend

end CredentialStore
