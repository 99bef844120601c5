import CredentialStore.Proofs.FileStore.Recovery
import CredentialStore.Proofs.KeyringStore.Recovery
import CredentialStore.Site

/-!
# A site after a reset

A reset does not look at what it removes. Whatever bytes the credentials file has and whatever texts
the secret store, the site can be opened afterwards, nothing of what was there is found, and nothing
is left to migrate.

Main statements:

* `exists_choose` — how a place is chosen, and what that leaves;
* `exists_reset` and `exists_open` — a reset empties the place, and an empty place is opened as it
  is;
* `IsEmptied.answers_eq` — empty places list and write credentials alike;
* `recovers_of_reset` — all of it together.
-/

namespace CredentialStore

open Op

/-! ## Choosing a place -/

/-- Whether a keyring takes a text. -/
def KeyringMode.takesTexts : KeyringMode → Bool
  | .garbled | .working => true
  | .absent | .locked | .readonly => false

namespace SystemKeyring

theorem entriesOf_putService_serviceStore (service service' : String) (k : SystemKeyring) :
    (putService service k (serviceStore service k)).entriesOf service' = k.entriesOf service' := by
  rw [entriesOf, putService, SortedTable.find?_insert]
  split
  · rename_i heq
    rw [← heq]
    rfl
  · rfl

/-- Trying a keyring out depends on its state of repair, which it leaves; one that takes no text
keeps those it has. -/
theorem exists_isAvailable (service : String) (k : SystemKeyring) :
    ∃ k', (isAvailable service).Yields k (.ok k.mode.takesTexts) k' ∧ k'.mode = k.mode ∧
      (k.mode.takesTexts = false → ∀ service', k'.entriesOf service' = k.entriesOf service') := by
  obtain ⟨mode, services⟩ := k
  cases mode with
  | garbled => exact ⟨_, ⟨rfl, rfl⟩, rfl, nofun⟩
  | working => exact ⟨_, ⟨rfl, rfl⟩, rfl, nofun⟩
  | absent =>
    exact ⟨_, ⟨rfl, rfl⟩, rfl, fun _ _ => entriesOf_putService_serviceStore service _ ⟨_, services⟩⟩
  | locked =>
    exact ⟨_, ⟨rfl, rfl⟩, rfl, fun _ _ => entriesOf_putService_serviceStore service _ ⟨_, services⟩⟩
  | readonly =>
    exact ⟨_, ⟨rfl, rfl⟩, rfl, fun _ _ => entriesOf_putService_serviceStore service _ ⟨_, services⟩⟩

end SystemKeyring

namespace Site

variable {s s' n n' : Site} {p : Place} {t : SecretStore}

/-- The place that is chosen. -/
def chosen (s : Site) : Except CredentialError Place :=
  if s.config.backend = .file then .ok .file
  else if s.injected.isSome then .ok .injected
  else if s.keyring.mode.takesTexts then .ok .systemKeyring
  else if s.config.backend = .keyring then .error (.load "system keyring is not available")
  else .ok .file

/-- Choosing touches nothing but the keyring of the system, and that only where it is chosen. -/
theorem exists_choose (s : Site) :
    ∃ k, choose.Yields s s.chosen { s with keyring := k } ∧ k.mode = s.keyring.mode ∧
      (s.chosen ≠ .ok .systemKeyring →
        ∀ service, k.entriesOf service = s.keyring.entriesOf service) := by
  by_cases hfile : s.config.backend = .file
  · refine ⟨s.keyring, (yields_state s).bind ?_, rfl, fun _ _ => rfl⟩
    rw [if_pos hfile, chosen, if_pos hfile]
    exact yields_pure _ s
  by_cases hinjected : s.injected.isSome = true
  · refine ⟨s.keyring, (yields_state s).bind ?_, rfl, fun _ _ => rfl⟩
    rw [if_neg hfile, if_pos hinjected, chosen, if_neg hfile, if_pos hinjected]
    exact yields_pure _ s
  -- the keyring of the system is tried out
  obtain ⟨k, havailable, hmode, hentries⟩ :=
    SystemKeyring.exists_isAvailable s.config.serviceName s.keyring
  refine ⟨k, (yields_state s).bind ?_, hmode, fun hne => hentries ?_⟩
  · rw [if_neg hfile, if_neg hinjected, chosen, if_neg hfile, if_neg hinjected]
    refine Yields.bind (x := onKeyring _) (Yields.zoom havailable) ?_
    split
    · exact yields_pure _ _
    · split
      · exact yields_throw _ _
      · exact yields_pure _ _
  · rw [chosen, if_neg hfile, if_neg hinjected] at hne
    by_cases htakes : s.keyring.mode.takesTexts = true
    · rw [if_pos htakes] at hne
      exact absurd rfl hne
    · simpa using htakes

/-- The choice is the same for the same configuration, the same kind of secret store and the same
state of repair. -/
theorem chosen_congr (hconfig : s'.config = s.config)
    (hinjected : s'.injected.isSome = s.injected.isSome)
    (hmode : s'.keyring.mode = s.keyring.mode) : s'.chosen = s.chosen := by
  rw [chosen, chosen, hconfig, hinjected, hmode]

theorem chosen_of_choose (h : (choose s).answer = .ok p) : s.chosen = .ok p := by
  obtain ⟨k, hchoose, -⟩ := exists_choose s
  rw [← hchoose.1, h]

/-- Once a place is chosen, the site goes on with it. -/
theorem exists_choose_of_answer (h : (choose s).answer = .ok p) (hp : p ≠ .systemKeyring) :
    ∃ k, choose.Yields s (.ok p) { s with keyring := k } ∧ k.mode = s.keyring.mode ∧
      ∀ service, k.entriesOf service = s.keyring.entriesOf service := by
  obtain ⟨k, hchoose, hmode, hentries⟩ := exists_choose s
  have hchosen := chosen_of_choose h
  refine ⟨k, hchosen ▸ hchoose, hmode, hentries ?_⟩
  rw [hchosen]
  exact fun heq => hp (Except.ok.inj heq)

theorem choose_congr (hconfig : s'.config = s.config)
    (hinjected : s'.injected.isSome = s.injected.isSome)
    (hmode : s'.keyring.mode = s.keyring.mode) (h : (choose s).answer = .ok p) :
    (choose s').answer = .ok p := by
  obtain ⟨k, hchoose, -⟩ := exists_choose s'
  rw [hchoose.1, chosen_congr hconfig hinjected hmode, chosen_of_choose h]

/-! ## Migrations that are settled -/

theorem yields_settleMigration {find : Op Site MigrationState} {m : MigrationState}
    (h : s.migration = .unchecked) (hfind : find.Yields s (.ok m) s') :
    (settleMigration find).Yields s (.ok m) { s' with migration := m } := by
  refine (yields_state s).bind ?_
  rw [h]
  exact hfind.bind ((yields_state s').bind ((yields_setState s' _).bind (yields_pure m _)))

/-- Settling a migration leaves what looking for it leaves. -/
theorem settleMigration_cases {find : Op Site MigrationState} {m m' : MigrationState}
    (hfind : find.Yields s (.ok m) s) (h : (settleMigration find).Yields s (.ok m') s') :
    s' = { s with migration := m' } := by
  cases hmigration : s.migration with
  | unchecked =>
    obtain ⟨heq, rfl⟩ := h.unique (yields_settleMigration hmigration hfind)
    cases heq
    rfl
  | _ =>
    -- it has been settled before
    have hready : settleMigration find s = ⟨.ok s.migration, s, []⟩ :=
      settleMigration_of_ready (by rw [hmigration]; rfl)
    rw [Yields, hready] at h
    obtain ⟨heq, rfl⟩ := h
    cases heq
    rfl

/-! ## A secret store that was handed over -/

theorem yields_onInjected {α : Type} {x : Op SecretStore α} {r : Except CredentialError α}
    {u : SecretStore} (hs : s.injected = some t) (hx : x.Yields t r u) :
    (zoom (secretStore .injected) (putSecretStore .injected) x).Yields s r
      { s with injected := some u } := by
  have hpart : s.secretStore .injected = t := by
    rw [secretStore, hs]
    rfl
  exact Yields.zoom (hpart ▸ hx)

theorem service_injected (s : Site) :
    s.service .injected =
      KeyringStore.service.zoom (secretStore .injected) (putSecretStore .injected) :=
  rfl

/-- Nothing is migrated from a cleared secret store. -/
theorem yields_migrate_of_cleared (hs : s.injected = some t) (ht : KeyringStore.IsCleared t)
    (fresh : Nat → String) : (migrate .injected fresh).Yields s (.ok .notNeeded) s := by
  have hpresent := yields_onInjected hs ht.yields_isPresent
  have hsame : ({ s with injected := some t } : Site) = s := by rw [← hs]
  rw [hsame] at hpresent
  exact hpresent.bind (yields_pure _ s)

/-! ## What a place holds -/

/-- Nothing is kept at a place: the file holds no credentials, or the secret store is cleared. -/
inductive IsEmptied (s : Site) : Place → Prop where
  | file (hread : s.disk.readText s.filePath = .ok (FileStore.Document.write {})) :
    IsEmptied s .file
  | injected {t : SecretStore} (hinjected : s.injected = some t)
    (hcleared : KeyringStore.IsCleared t) : IsEmptied s .injected

namespace IsEmptied

theorem ne_systemKeyring (h : s.IsEmptied p) : p ≠ .systemKeyring := by
  cases h <;> decide

theorem list_eq (h : s.IsEmptied p) : ((s.service p).list s).answer = .ok [] := by
  cases h with
  | file hread =>
    have hloads := FileStore.loads_of_readText hread FileStore.Document.isSettled_empty
    exact (FileStore.yields_list_of_loads hloads).1
  | injected hinjected hcleared => exact (yields_onInjected hinjected hcleared.yields_list).1

theorem defaultServer_eq (h : s.IsEmptied p) :
    ((s.service p).defaultServer s).answer = .ok none := by
  cases h with
  | file hread =>
    have hloads := FileStore.loads_of_readText hread FileStore.Document.isSettled_empty
    exact (FileStore.yields_defaultServer_of_loads hloads).1
  | injected hinjected hcleared =>
    exact (yields_onInjected hinjected hcleared.yields_defaultServer).1

/-- Credentials are listed and written as at any other site that keeps nothing there. -/
theorem answers_eq (h : s.IsEmptied p) (h' : n.IsEmptied p) {requests : List Request}
    (hrequests : ∀ r ∈ requests, r.ListsOrWrites)
    (hdisk : ∀ a ∈ (s.service p).answers requests s, ¬ FailedAtDisk a)
    (hdisk' : ∀ a ∈ (n.service p).answers requests n, ¬ FailedAtDisk a) :
    (s.service p).answers requests s = (n.service p).answers requests n := by
  cases h with
  | file hread =>
    cases h' with
    | file hread' =>
      have hfile : ∀ s : Site, (s.service .file).answers requests s =
          (FileStore.service s.filePath).answers requests s.disk :=
        fun s => Service.answers_zoom (fun _ _ => rfl) _ requests s
      rw [hfile] at hdisk hdisk' ⊢
      rw [hfile]
      have hempty := FileStore.Document.isSettled_empty
      exact FileStore.answers_eq_of_loads (FileStore.loads_of_readText hread hempty)
        (FileStore.loads_of_readText hread' hempty) hdisk hdisk'
  | injected hinjected hcleared =>
    cases h' with
    | injected hinjected' hcleared' =>
      have hstore : ∀ {s : Site} {t}, s.injected = some t → (s.service .injected).answers requests s =
          KeyringStore.service.answers requests t := by
        intro s t hs
        rw [service_injected, Service.answers_zoom (fun _ _ => rfl), secretStore, hs]
        rfl
      rw [hstore hinjected, hstore hinjected']
      exact (hcleared.listsAlike hcleared').answers_eq hrequests

end IsEmptied

/-- Secret stores keep all texts under keys that are none of a keyring. -/
def SparesForeign (s s' : Site) : Prop :=
  ∀ q key, KeyringStore.IsForeign key →
    (s'.secretStore q).entries.find? key = (s.secretStore q).entries.find? key

theorem SparesForeign.trans {s'' : Site} (h : s.SparesForeign s') (h' : s'.SparesForeign s'') :
    s.SparesForeign s'' :=
  fun q key hkey => (h' q key hkey).trans (h q key hkey)

theorem sparesForeign_of_injected (hconfig : s'.config = s.config)
    (hentries : ∀ service, s'.keyring.entriesOf service = s.keyring.entriesOf service)
    (hinjected : ∀ key, KeyringStore.IsForeign key →
      (s'.secretStore .injected).entries.find? key = (s.secretStore .injected).entries.find? key) :
    s.SparesForeign s' := by
  intro q key hkey
  cases q with
  | injected => exact hinjected key hkey
  | _ =>
    show (s'.keyring.entriesOf s'.config.serviceName).find? key = _
    rw [hconfig, hentries]
    rfl

/-! ## Opening and resetting -/

/-- What is not kept is not migrated either. -/
theorem exists_open (hchosen : (choose s).answer = .ok p) (h : s.IsEmptied p)
    (hmigration : s.migration = .unchecked) (fresh : Nat → String) :
    ∃ s', (openStore fresh).Yields s (.ok ⟨p, .notNeeded⟩) s' ∧ s'.IsEmptied p ∧
      s.SparesForeign s' := by
  obtain ⟨k, hchoose, -, hentries⟩ := exists_choose_of_answer hchosen h.ne_systemKeyring
  cases h with
  | file hread =>
    have hsetUp := FileStore.yields_setUp hread FileStore.Document.isSettled_empty
    have hsettle := yields_settleMigration (s := { s with keyring := k }) hmigration
      (yields_pure .notNeeded _)
    refine ⟨_, hchoose.bind ((yields_state _).bind (Yields.bind (x := onDisk _) (Yields.zoom hsetUp)
      (hsettle.bind (yields_pure _ _)))), .file hread, ?_⟩
    exact sparesForeign_of_injected rfl hentries fun _ _ => rfl
  | injected hinjected hcleared =>
    have hsettle := yields_settleMigration (s := { s with keyring := k }) hmigration
      (yields_migrate_of_cleared (s := { s with keyring := k }) hinjected hcleared fresh)
    refine ⟨_, hchoose.bind (hsettle.bind (yields_pure _ _)), .injected hinjected hcleared, ?_⟩
    exact sparesForeign_of_injected rfl hentries fun _ _ => rfl

/-- What a reset needs of a place, whatever is kept there: a regular file with any bytes that a save
can get to, or a secret store with any texts that responds. -/
inductive IsReady (s : Site) : Place → Prop where
  | file {place temporary : List String} {bytes : List UInt8} {mode : Nat} {node : Option DiskNode}
    (hfile : s.disk.lookup s.filePath = .ok (place, some (.file bytes mode)))
    (htemporary :
      s.disk.lookup (FileStore.temporaryPath s.filePath) = .ok (temporary, node))
    (hnode : node ≠ some .directory)
    (hroom : s.disk.HasRoom (Text.utf8 (FileStore.Document.write {}).toList)) : IsReady s .file
  | injected {t : SecretStore} (hinjected : s.injected = some t) (hresponds : t.Responds) :
    IsReady s .injected

theorem exists_reset (hchosen : (choose s).answer = .ok p) (h : s.IsReady p) :
    ∃ outcome s', reset.Yields s (.ok outcome) s' ∧ s'.IsEmptied p ∧
      (choose s').answer = .ok p ∧ s.SparesForeign s' := by
  cases h with
  | file hfile htemporary hnode hroom =>
    obtain ⟨k, hchoose, hmode, hentries⟩ := exists_choose_of_answer hchosen (by decide)
    obtain ⟨outcome, d, hreset, hread⟩ :=
      FileStore.exists_reset (FileStore.canSave_of_lookup hfile htemporary hnode hroom)
    refine ⟨outcome, { s with keyring := k, disk := d }, hchoose.bind ((yields_state _).bind
      (Yields.bind (Yields.zoom hreset) (yields_pure _ _))), .file hread,
      choose_congr (s := s) rfl rfl hmode hchosen, ?_⟩
    exact sparesForeign_of_injected rfl hentries fun _ _ => rfl
  | injected hinjected hresponds =>
    obtain ⟨k, hchoose, hmode, hentries⟩ := exists_choose_of_answer hchosen (by decide)
    obtain ⟨t', u, hreset, hlegacy, hcleared, hforeign⟩ := KeyringStore.exists_cleared hresponds
    have hfirst := yields_onInjected (s := { s with keyring := k }) hinjected hreset
    have hsecond := yields_onInjected (s := { s with keyring := k, injected := some t' }) rfl hlegacy
    refine ⟨{}, { s with keyring := k, injected := some u }, hchoose.bind ((yields_state _).bind
      (Yields.bind hfirst (hsecond.attempt.bind (yields_pure _ _)))), .injected rfl hcleared,
      choose_congr (s := s) rfl (by rw [hinjected]; rfl) hmode hchosen, ?_⟩
    refine sparesForeign_of_injected rfl hentries fun key hkey => ?_
    rw [secretStore, secretStore, hinjected]
    exact hforeign key hkey

/-! ## Sites that start anew -/

/-- Nothing was ever kept at a place. -/
inductive IsUnused (s : Site) : Place → Prop where
  | file (hnone : s.disk.readText s.filePath = .error .notFound) : IsUnused s .file
  | injected {t : SecretStore} (hinjected : s.injected = some t) (hresponds : t.Responds)
    (hempty : t.entries = .empty) : IsUnused s .injected

/-- What is opened is the place that is chosen. -/
theorem choose_of_openStore {fresh : Nat → String} {m : MigrationState}
    (h : (openStore fresh s).answer = .ok ⟨p, m⟩) : (choose s).answer = .ok p := by
  obtain ⟨q, s₁, hchoose, hrest⟩ := Yields.bind_ok ⟨h, rfl⟩
  rw [hchoose.1]
  cases q with
  | file =>
    obtain ⟨s₂, s₃, -, hrest⟩ := hrest.bind_ok
    obtain ⟨u, s₄, -, hrest⟩ := hrest.bind_ok
    obtain ⟨m', s₅, -, hend⟩ := hrest.bind_ok
    cases hend.1
    rfl
  | _ =>
    obtain ⟨m', s₂, -, hend⟩ := hrest.bind_ok
    cases hend.1
    rfl

/-- Opening a place where nothing was ever kept. -/
theorem IsUnused.isEmptied (h : s.IsUnused p) {fresh : Nat → String} {m : MigrationState}
    (hopen : (openStore fresh s).answer = .ok ⟨p, m⟩) :
    (openStore fresh s).state.IsEmptied p := by
  have hchosen := choose_of_openStore hopen
  have hopen : (openStore fresh).Yields s (.ok ⟨p, m⟩) (openStore fresh s).state := ⟨hopen, rfl⟩
  generalize (openStore fresh s).state = s' at hopen ⊢
  cases h with
  | file hnone =>
    obtain ⟨k, hchoose, -⟩ := exists_choose_of_answer hchosen (by decide)
    have hrest := (hopen.of_bind hchoose).of_bind (yields_state _)
    obtain ⟨u, s₁, hsetUp, hrest⟩ := hrest.bind_ok
    obtain ⟨d, hpart, rfl⟩ := hsetUp.of_zoom
    obtain ⟨m', s₂, hsettle, hend⟩ := hrest.bind_ok
    obtain ⟨-, rfl⟩ := (yields_pure _ s₂).unique hend
    rw [settleMigration_cases (yields_pure .notNeeded _) hsettle]
    exact .file (FileStore.readText_of_setUp hnone hpart)
  | injected hinjected hresponds hempty =>
    have hcleared := KeyringStore.isCleared_of_empty hresponds hempty
    obtain ⟨k, hchoose, -⟩ := exists_choose_of_answer hchosen (by decide)
    obtain ⟨m', s₂, hsettle, hend⟩ := (hopen.of_bind hchoose).bind_ok
    obtain ⟨-, rfl⟩ := (yields_pure _ s₂).unique hend
    rw [settleMigration_cases
      (yields_migrate_of_cleared (s := { s with keyring := k }) hinjected hcleared fresh) hsettle]
    exact .injected hinjected hcleared

/-- A site lists and writes credentials at a place as one that never kept any there, as long as
nothing fails at the disk. -/
def ListsAndWritesAsUnused (s : Site) (p : Place) : Prop :=
  ∀ ⦃n : Site⦄ ⦃fresh : Nat → String⦄ ⦃m : MigrationState⦄ ⦃requests : List Request⦄,
    n.IsUnused p → (openStore fresh n).answer = .ok ⟨p, m⟩ →
    (∀ r ∈ requests, r.ListsOrWrites) →
    let n' := (openStore fresh n).state
    (∀ a ∈ (s.service p).answers requests s, ¬ FailedAtDisk a) →
    (∀ a ∈ (n'.service p).answers requests n', ¬ FailedAtDisk a) →
    (s.service p).answers requests s = (n'.service p).answers requests n'

/-- A site as a program finds it that starts after a reset. -/
def afterReset (s : Site) : Site :=
  { (reset s).state with migration := .unchecked }

/-- Whatever is kept at a place, a reset succeeds, and the site can be opened then: nothing is
migrated, listed or preferred, and credentials are listed and written as where there never were any.
Secret stores keep all other texts. -/
theorem recovers_of_reset (hchosen : (choose s).answer = .ok p) (hready : s.IsReady p)
    (fresh : Nat → String) :
    (∃ outcome, (reset s).answer = .ok outcome) ∧
      (openStore fresh s.afterReset).answer = .ok ⟨p, .notNeeded⟩ ∧
      let s' := (openStore fresh s.afterReset).state
      ((s'.service p).list s').answer = .ok [] ∧
        ((s'.service p).defaultServer s').answer = .ok none ∧
        s'.ListsAndWritesAsUnused p ∧ s.SparesForeign s' := by
  obtain ⟨outcome, s₁, ⟨hreset, rfl⟩, hemptied, hchosen₁, hspares₁⟩ := exists_reset hchosen hready
  -- for another program the migration is not settled; what is kept is the same
  have hafter : s.afterReset.IsEmptied p := by
    cases hemptied with
    | file hread => exact .file hread
    | injected hinjected hcleared => exact .injected hinjected hcleared
  have hchosen₂ : (choose s.afterReset).answer = .ok p :=
    choose_congr (s := (reset s).state) rfl rfl rfl hchosen₁
  obtain ⟨s₂, ⟨hopen, rfl⟩, hemptied₂, hspares₂⟩ := exists_open hchosen₂ hafter rfl fresh
  refine ⟨⟨outcome, hreset⟩, hopen, hemptied₂.list_eq, hemptied₂.defaultServer_eq, ?_, ?_⟩
  · intro n fresh' m requests hunused hopened hrequests n' hdisk hdisk'
    exact hemptied₂.answers_eq (hunused.isEmptied hopened) hrequests hdisk hdisk'
  · exact hspares₁.trans fun q key hkey => hspares₂ q key hkey

/-- A file that is no text. -/
def brokenFile : Site where
  config := { backend := .file, filePath := some "/credentials" }
  disk := { nodes := SortedTable.empty.insert "/credentials" (.file [0xFF] 0o600) }

/-- A secret store that cannot list its keys, with texts that cannot be read. -/
def brokenStore : Site where
  injected := some {
    listing := false
    entries := SortedTable.ofList [("credential-guids", "["), ("credential:g", "\x7b"),
      ("credentials", "\x7b"), ("default-server", "g")] }

/-- A list, a write and another list. -/
def listWriteList : List Request :=
  [.list, .set [] { name := "work", url := "https://connect.example.com", apiKey := "key" }, .list]

theorem recovers_of_reset_broken :
    (let s := (openStore (fun _ => "") brokenFile.afterReset).state
     let n := (openStore (fun _ => "") { config := brokenFile.config }).state
     (s.service .file).answers listWriteList s = (n.service .file).answers listWriteList n) ∧
    (let s := (openStore (fun _ => "") brokenStore.afterReset).state
     ((s.service .injected).list s).answer = .ok []) := by
  have hlookup : brokenFile.disk.lookup brokenFile.filePath =
      .ok (["credentials"], some (.file [0xFF] 0o600)) := by decide +kernel
  have htemporary : brokenFile.disk.lookup (FileStore.temporaryPath brokenFile.filePath) =
      .ok (["credentials.tmp"], none) := by decide +kernel
  have hfile : brokenFile.IsReady .file := .file hlookup htemporary (by decide) nofun
  obtain ⟨-, -, -, -, hwrites, -⟩ := recovers_of_reset (by decide +kernel) hfile fun _ => ""
  obtain ⟨-, -, hlist, -⟩ :=
    recovers_of_reset (s := brokenStore) (by decide +kernel) (.injected rfl ⟨rfl, rfl⟩) fun _ => ""
  refine ⟨hwrites (n := { config := brokenFile.config }) (m := .notNeeded)
    (.file (by decide +kernel)) (by decide +kernel) ?_ (by decide +kernel) (by decide +kernel), hlist⟩
  simp [listWriteList, Request.ListsOrWrites]

end Site

end CredentialStore
