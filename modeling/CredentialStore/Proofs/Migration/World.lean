import CredentialStore.Migration
import CredentialStore.Proofs.FileStore.Operations
import CredentialStore.Proofs.KeyringStore.Legacy
import CredentialStore.Proofs.KeyringStore.Operations

/-!
# Where credentials are kept and where they come from

A migration reads the legacy entry in one secret store and writes to a file, to a keyring
in the same secret store or to one in another. A world has all of these, so that what is proved of
it is proved of every pair.

Main statements, for a backend that holds what a ledger holds:

* `Backend.exists_list`, `Backend.follows_set` and `Backend.follows_perform` — it follows the
  ledger;
* `Backend.Holds.of_legacy` — it does not notice what becomes of the legacy entry.
-/

namespace CredentialStore

open Op

/-- What a program can reach. -/
structure World where
  disk : Disk := {}
  /-- The secret store that has the keyring. -/
  store : SecretStore := {}
  /-- A secret store beside it. -/
  other : SecretStore := {}

/-- Where credentials are kept. -/
inductive Backend where
  | file (path : String)
  | keyring

/-- Which secret store has the legacy entry. -/
inductive Shelf where
  | store
  | other

/-- The credentials of a backend. -/
def Backend.service : Backend → Service World
  | .file path => (FileStore.service path).zoom World.disk fun w d => { w with disk := d }
  | .keyring => KeyringStore.service.zoom World.store fun w s => { w with store := s }

namespace Shelf

/-- The secret store on a shelf. -/
def part : Shelf → World → SecretStore
  | .store => World.store
  | .other => World.other

def put : Shelf → World → SecretStore → World
  | .store, w, s => { w with store := s }
  | .other, w, s => { w with other := s }

/-- The legacy credentials. -/
def legacy (shelf : Shelf) : Service World :=
  LegacyStore.service.zoom shelf.part shelf.put

/-- The legacy text on a shelf. -/
def text (shelf : Shelf) (w : World) : Option String :=
  (shelf.part w).entries.find? KeyringStore.legacyKey

theorem part_put (shelf : Shelf) (w : World) (s : SecretStore) :
    shelf.part (shelf.put w s) = s := by
  cases shelf <;> rfl

end Shelf

namespace World

/-- The disk and the texts of both secret stores are what they were. -/
structure Keeps (w w' : World) : Prop where
  disk_eq : w'.disk = w.disk
  store : w.store.Keeps w'.store
  other : w.other.Keeps w'.other

section Keeps

variable {w w' w'' : World}

theorem Keeps.refl (w : World) : w.Keeps w :=
  ⟨rfl, .refl _, .refl _⟩

theorem Keeps.trans (h : w.Keeps w') (h' : w'.Keeps w'') : w.Keeps w'' :=
  ⟨h'.disk_eq.trans h.disk_eq, h.store.trans h'.store, h.other.trans h'.other⟩

/-- What keeps the texts on a shelf keeps the world. -/
theorem keeps_put (shelf : Shelf) {s : SecretStore} (h : (shelf.part w).Keeps s) :
    w.Keeps (shelf.put w s) := by
  cases shelf with
  | store => exact ⟨rfl, h, .refl _⟩
  | other => exact ⟨rfl, .refl _, h⟩

end Keeps

end World

namespace Backend

/-- A backend holds what a ledger holds. -/
def Holds (w : World) (l : Ledger) : Backend → Prop
  | .file path => FileStore.Holds path w.disk l
  | .keyring => KeyringStore.Holds w.store l

/-- What is read of an identifier that was written as the preferred one. -/
def readBack : Backend → String → String
  | .file _ => id
  | .keyring => Text.trim

variable {b : Backend} {w w' : World} {l : Ledger}

/-- What becomes of the legacy entry goes unnoticed. -/
theorem Holds.of_legacy (h : b.Holds w l) {shelf : Shelf} {s : SecretStore}
    (hspares : LegacyStore.Spares (shelf.part w) s) : b.Holds (shelf.put w s) l := by
  -- a file is no part of a secret store, and a keyring keeps to its own keys
  cases b with
  | file path =>
    cases shelf <;> exact h
  | keyring =>
    cases shelf with
    | store => exact KeyringStore.Holds.of_spares h hspares
    | other => exact h

theorem exists_list (h : b.Holds w l) (hv : Ledger.Valid l.credentials) :
    ∃ cs, b.service.list.Yields w (.ok cs) w ∧ cs.Perm l.credentials := by
  cases b with
  | file path => exact ⟨_, (FileStore.yields_list h hv).zoom, .refl _⟩
  | keyring =>
    obtain ⟨cs, hload, hperm⟩ := KeyringStore.exists_loadAll h hv
    exact ⟨cs, hload.zoom, hperm⟩

/-- A write that does not fail at the disk leaves what the ledger leaves. -/
theorem follows_set (h : b.Holds w l) (hv : Ledger.Valid l.credentials) {fresh : String}
    {details : Details} {r : Except CredentialError Credential}
    (hset : (b.service.set fresh details).Yields w r w') :
    FailedAtDisk r ∨
      AgreeBy Eq r (l.set fresh details).1 ∧ b.Holds w' (l.set fresh details).2 := by
  cases b with
  | file path =>
    obtain ⟨d, hpart, rfl⟩ := hset.of_zoom
    -- the operation yields one answer, so it is the one the ledger tells
    rcases FileStore.follows_set h hv fresh details with ⟨e, d', hio⟩ | ⟨d', hexact, hd'⟩
    · obtain ⟨rfl, -⟩ := hpart.unique hio
      exact .inl rfl
    · obtain ⟨rfl, rfl⟩ := hpart.unique hexact
      exact .inr ⟨.refl _, hd'⟩
  | keyring =>
    obtain ⟨s, hpart, rfl⟩ := hset.of_zoom
    obtain ⟨q, t, hyields, hagree, ht⟩ := KeyringStore.follows_set h hv fresh details
    obtain ⟨rfl, rfl⟩ := hpart.unique hyields
    exact .inr ⟨hagree, ht⟩

/-- So does every request; it answers as the ledger does. -/
theorem follows_perform (h : b.Holds w l) (hv : Ledger.Valid l.credentials) {request : Request}
    (hdraws : request.DrawsUnused l.credentials) {r : Except CredentialError Reply}
    (hperform : (b.service.perform request).Yields w r w') :
    FailedAtDisk r ∨ Agree r (l.perform b.readBack request).1 ∧
      b.Holds w' (l.perform b.readBack request).2 := by
  cases b with
  | file path =>
    rw [service, Service.perform_zoom] at hperform
    obtain ⟨d, hpart, rfl⟩ := hperform.of_zoom
    rcases FileStore.follows_perform h hv request with ⟨e, d', hio⟩ | ⟨d', hexact, hd'⟩
    · obtain ⟨rfl, -⟩ := hpart.unique hio
      exact .inl rfl
    · obtain ⟨rfl, rfl⟩ := hpart.unique hexact
      exact .inr ⟨.refl _, hd'⟩
  | keyring =>
    rw [service, Service.perform_zoom] at hperform
    obtain ⟨s, hpart, rfl⟩ := hperform.of_zoom
    obtain ⟨q, t, hyields, hagree, ht⟩ := KeyringStore.follows_perform h hv hdraws
    obtain ⟨rfl, rfl⟩ := hpart.unique hyields
    exact .inr ⟨hagree, ht⟩

end Backend

end CredentialStore
