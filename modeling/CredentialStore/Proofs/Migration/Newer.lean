import CredentialStore.Proofs.FileStore.Newer
import CredentialStore.Proofs.KeyringStore.Newer
import CredentialStore.Proofs.Migration.Cases
import CredentialStore.Proofs.Migration.World

/-!
# Stores of a newer version

What a newer version has stored is not written over, be it in a file or in a keyring: every write
and every migration lists the credentials of its target first, and that fails before a text is
changed. Both backends get there in their own ways, a file because nothing of it is told and a
keyring because all of its records are loaded; the modules on the two have the details.

Main statement: `protects_newer`.
-/

namespace CredentialStore

open Op

namespace World

variable {w w' : World}

/-- An operation fails and leaves the disk and all texts. -/
def Refuses {α : Type} (w : World) (x : Op World α) : Prop :=
  ∃ e w', x.Yields w (.error e) w' ∧ w.Keeps w'

theorem refuses_of_yields {α : Type} {x : Op World α}
    (h : ∀ {r w'}, x.Yields w r w' → w.Keeps w' ∧ ∃ e, r = .error e) : w.Refuses x := by
  have hself := yields_self x w
  obtain ⟨hkeeps, e, he⟩ := h hself
  rw [he] at hself
  exact ⟨e, _, hself, hkeeps⟩

/-- What begins with reading a file of a newer version is refused. -/
theorem refuses_load {path : String} (h : FileStore.HoldsNewer path w.disk) {α : Type}
    (f : FileStore.Document → Op Disk α) :
    w.Refuses (zoom World.disk (fun w d => { w with disk := d }) (FileStore.load path >>= f)) := by
  obtain ⟨e, he⟩ := h.exists_yields_load f
  exact ⟨e, w, he.zoom, .refl w⟩

/-- What a secret store refuses is refused. -/
theorem refuses_of_part (shelf : Shelf) {α : Type} {x : Op SecretStore α}
    (h : ∀ {r s}, x.Yields (shelf.part w) r s → (shelf.part w).Keeps s ∧ ∃ e, r = .error e) :
    w.Refuses (zoom shelf.part shelf.put x) := by
  refine refuses_of_yields fun hx => ?_
  obtain ⟨s, hpart, rfl⟩ := hx.of_zoom
  obtain ⟨hkeeps, he⟩ := h hpart
  exact ⟨keeps_put shelf hkeeps, he⟩

end World

namespace Backend

/-- What a backend enumerates has an entry of a newer version that can be read by itself. -/
def HoldsNewer (w : World) : Backend → Prop
  | .file path => FileStore.HoldsNewer path w.disk
  | .keyring => ∃ guid text, KeyringStore.HoldsNewer guid text w.store

/-- What a newer version has stored in a backend is safe. -/
structure ProtectsNewer (b : Backend) (w : World) : Prop where
  set : ∀ fresh details, w.Refuses (b.service.set fresh details)
  forceSet : ∀ fresh details, w.Refuses (b.service.forceSet fresh details)
  migrate : ∀ (shelf : Shelf) fresh, w.Refuses (Migration.run shelf.legacy b.service fresh)
  /-- Of a file nothing is told, and only a reset changes it. -/
  file : ∀ path, b = .file path → ∀ c : FileStore.Call, c ≠ .write .reset →
    ∃ e, (c.run path).Yields w.disk (.error e) w.disk
  /-- A record in a keyring stays what it is until it is removed itself. -/
  keyring : b = .keyring → ∀ guid text, KeyringStore.HoldsNewer guid text w.store →
    ∀ s, KeyringStore.ReachedWithout guid w.store s →
      s.entries.find? (KeyringStore.credentialKey guid) = some text

namespace HoldsNewer

variable {b : Backend} {w w' : World}

theorem of_keeps (h : b.HoldsNewer w) (hkeeps : w.Keeps w') : b.HoldsNewer w' := by
  cases b with
  | file path =>
    show FileStore.HoldsNewer path w'.disk
    rw [hkeeps.disk_eq]
    exact h
  | keyring =>
    obtain ⟨guid, text, hnewer⟩ := h
    exact ⟨guid, text, hnewer.of_keeps hkeeps.store⟩

/-- Listing fails in both, and leaves all texts. -/
theorem list (h : b.HoldsNewer w) {r : Except CredentialError (List Credential)}
    (hlist : b.service.list.Yields w r w') : w.Keeps w' ∧ ∃ e, r = .error e := by
  cases b with
  | file path =>
    obtain ⟨d, hpart, rfl⟩ := hlist.of_zoom
    obtain ⟨e, he⟩ := FileStore.HoldsNewer.exists_yields_load h fun D => pure D.list
    obtain ⟨rfl, rfl⟩ := he.unique hpart
    exact ⟨.refl w, e, rfl⟩
  | keyring =>
    obtain ⟨guid, text, hnewer⟩ := h
    obtain ⟨s, hpart, rfl⟩ := hlist.of_zoom
    obtain ⟨hkeeps, he⟩ := hnewer.loadAll hpart
    exact ⟨World.keeps_put .store hkeeps, he⟩

/-- A migration ends at the list of its target at the latest. -/
theorem migrate (h : b.HoldsNewer w) {shelf : Shelf} {fresh : Nat → String}
    {r : Except CredentialError MigrationReport}
    (hrun : (Migration.run shelf.legacy b.service fresh).Yields w r w') :
    w.Keeps w' ∧ ∃ e, r = .error e := by
  have hlegacy : ∀ {q w₁}, shelf.legacy.list.Yields w q w₁ → w.Keeps w₁ := by
    intro q w₁ hlist
    obtain ⟨s, hpart, rfl⟩ := hlist.of_zoom
    exact World.keeps_put shelf (LegacyStore.list_cases hpart).1
  rcases Migration.run_cases hrun with ⟨e, hlist, rfl⟩ | ⟨cs, w₁, hlist, hrest⟩
  · exact ⟨hlegacy hlist, e, rfl⟩
  have hkeeps := hlegacy hlist
  rcases hrest with ⟨e, htarget, rfl⟩ | ⟨ds, w₂, htarget, -⟩
  · exact ⟨hkeeps.trans ((h.of_keeps hkeeps).list htarget).1, e, rfl⟩
  · obtain ⟨-, e, he⟩ := (h.of_keeps hkeeps).list htarget
    cases he

end HoldsNewer

variable {b : Backend} {w : World}

/-- What a newer version has stored is not written over: neither a write nor a migration gets
through to it, nothing but a reset changes the file that it is in, and nothing but its own removal
or a reset the record that it is. -/
theorem protects_newer (h : b.HoldsNewer w) : b.ProtectsNewer w where
  set := by
    intro fresh details
    cases b with
    | file path => exact World.refuses_load h _
    | keyring =>
      obtain ⟨guid, text, hnewer⟩ := h
      exact World.refuses_of_part .store hnewer.set
  forceSet := by
    intro fresh details
    cases b with
    | file path => exact World.refuses_load h _
    | keyring =>
      obtain ⟨guid, text, hnewer⟩ := h
      exact World.refuses_of_part .store hnewer.forceSet
  migrate _ _ := World.refuses_of_yields h.migrate
  file := by
    rintro path rfl c hc
    exact FileStore.HoldsNewer.refused h hc
  keyring := by
    intro _ guid text hnewer s hreached
    exact (hnewer.of_reachedWithout hreached).find?_eq

/-- A file with an entry of a newer version, and another one beside it that cannot be read. -/
def newerFile : String :=
  "[credentials.work]\nversion = 2\n\n[credentials.home]\nversion = true\n"

/-- A record of a newer version. -/
def newerRecord : String :=
  "\x7b\"guid\":\"g\",\"version\":2,\"data\":\x7b\x7d\x7d"

/-- A world that has both, and the legacy entry in the secret store of the keyring. -/
def newerWorld : World where
  disk := ({} : Disk).setNode ["credentials"] (.file (Text.utf8 newerFile.toList) 0o600)
  store.entries := (SortedTable.empty.insert (KeyringStore.credentialKey "g") newerRecord).insert
    KeyringStore.legacyKey "\x7b\"a\":\x7b\"url\":\"https://a.b\",\"apiKey\":\"k\"\x7d\x7d"

theorem protects_newer_newerWorld :
    (file "/credentials").HoldsNewer newerWorld ∧ (file "/credentials").ProtectsNewer newerWorld ∧
      keyring.HoldsNewer newerWorld ∧ keyring.ProtectsNewer newerWorld := by
  have hfile : (file "/credentials").HoldsNewer newerWorld := by
    have hread : newerWorld.disk.readText "/credentials" = .ok newerFile := by decide +kernel
    have hentry : ((FileStore.Document.enumerated newerFile).find? "work").bind
        FileStore.Entry.ofToml? = some { version := 2 } := by decide +kernel
    obtain ⟨v, hfind, hentry⟩ := Option.bind_eq_some_iff.1 hentry
    exact ⟨newerFile, "work", v, _, hread, hfind, hentry, by decide⟩
  have hkeyring : keyring.HoldsNewer newerWorld := by
    have hfind : newerWorld.store.entries.find? (KeyringStore.credentialKey "g") =
        some newerRecord := by decide +kernel
    have hversion : (Record.read? newerRecord).map Record.version = some 2 := by decide +kernel
    obtain ⟨r, hread, hr⟩ := Option.map_eq_some_iff.1 hversion
    refine ⟨"g", newerRecord, ⟨?_, fun hlisting => nomatch hlisting⟩, hfind, r, hread, ?_⟩
    · rw [hfind]
      exact Option.some_ne_none _
    · rw [hr]
      decide
  exact ⟨hfile, protects_newer hfile, hkeyring, protects_newer hkeyring⟩

end Backend

end CredentialStore
