import CredentialStore.Proofs.Migration.Within
import CredentialStore.Proofs.Op.Corresponds
import CredentialStore.Proofs.Site.Reset

/-!
# What opening a site comes to

An open chooses a place (`secret_store`), settles the migration if nobody has settled it before
(`not_needed`, `ensure_migrated`), and touches nothing else of a secret store. The migration of a
site whose secret store was handed to it is the one within that store.

Main statements:

* `settleMigration_steps` and `openStore_steps` — what an open goes through, whatever fails;
* `migrate_eq_notNeeded_iff` — nothing is migrated where no entry was read;
* `Migration.corresponds_run` and `migrate_injected_cases` — a migration at a site is one in its
  secret store.
-/

namespace CredentialStore

open Op

/-- Migrations between services that correspond do so too. -/
theorem Migration.corresponds_run {σ τ : Type} {R : σ → τ → Prop} {source target : Service σ}
    {source' target' : Service τ} (fresh : Nat → String)
    (hsource : Corresponds R Eq source.list source'.list)
    (htarget : Corresponds R Eq target.list target'.list)
    (hset : ∀ guid details, Corresponds R Eq (target.set guid details) (target'.set guid details))
    (hreset : Corresponds R Eq source.reset source'.reset) :
    Corresponds R Eq (run source target fresh) (run source' target' fresh) := by
  have hcopy : ∀ guid c, Corresponds R Eq (copy target guid c) (copy target' guid c) := by
    intro guid c
    refine (hset guid (Details.preserving c)).attempt.bind fun r q hrq => ?_
    obtain rfl := hrq.eq
    cases r with
    | ok d => exact .pure rfl
    | error e => exact (Corresponds.forM_warn [_] [_]).bind fun _ _ _ => .throw _
  have hcopyAll : ∀ present i cs report, Corresponds R Eq
      (copyAll target fresh present i cs report) (copyAll target' fresh present i cs report) := by
    intro present i cs
    induction cs generalizing i with
    | nil => exact fun report => .pure rfl
    | cons c cs ih =>
      intro report
      rw [copyAll, copyAll]
      split
      · exact ih ..
      · exact (hcopy _ c).bind fun _ _ _ => ih ..
  refine hsource.bind fun cs _ hcs => ?_
  subst hcs
  refine htarget.bind fun ds _ hds => ?_
  subst hds
  refine (hcopyAll _ 0 cs {}).bind fun report _ hreport => ?_
  subst hreport
  refine hreset.attempt.bind fun r q hrq => ?_
  obtain rfl := hrq.eq
  cases r with
  | ok outcome => exact .pure rfl
  | error e => exact (Corresponds.forM_warn [_] [_]).bind fun _ _ _ => .pure rfl

/-- The state that a finished migration is settled in. -/
def MigrationState.ofRun : Except CredentialError MigrationReport → MigrationState
  | .ok report => .migrated report.migrated.length
  | .error e => .failed e.message

namespace SystemKeyring

/-- Trying a keyring out leaves all texts under other keys. -/
theorem find?_isAvailable (service : String) (k : SystemKeyring) {key : String}
    (hkey : key ≠ probeKey) :
    ((isAvailable service k).state.entriesOf service).find? key =
      (k.entriesOf service).find? key := by
  obtain ⟨t, hprobe, hstate⟩ := (yields_self (isAvailable service) k).of_zoom
  have hentries : (isAvailable service k).state.entriesOf service = t.entries := by
    rw [hstate]
    exact serviceStore_putService service k t
  rw [hentries]
  obtain ⟨q, u, hput, hrest⟩ := hprobe.of_bind_attempt
  have hbut := SecretStore.keepsBut_of_put hput
  cases q with
  | error e =>
    obtain ⟨-, rfl⟩ := (yields_pure false u).unique hrest
    exact hbut.find?_eq hkey
  | ok a =>
    -- the entry is removed again, or stays if that fails
    rcases hrest.bind_cases with ⟨e, hdiscard, -⟩ | ⟨a, v, hdiscard, hrest⟩
    · obtain ⟨q, hattempt, hq⟩ := Yields.of_discard hdiscard
      obtain ⟨q, -, rfl⟩ := hattempt.of_attempt
      cases hq
    · obtain ⟨-, rfl⟩ := (yields_pure true v).unique hrest
      obtain ⟨q, hattempt, -⟩ := Yields.of_discard hdiscard
      obtain ⟨q, hremove, -⟩ := hattempt.of_attempt
      rcases SecretStore.remove_cases hremove with ⟨-, hkeeps⟩ | ⟨-, hkeeps⟩
      · exact (hbut.trans ((SecretStore.keepsBut_erase u probeKey).trans
          (hkeeps.keepsBut probeKey))).find?_eq hkey
      · exact (hbut.trans (hkeeps.keepsBut probeKey)).find?_eq hkey

end SystemKeyring

namespace Site

variable {s s' : Site} {p : Place} {t : SecretStore} {fresh : Nat → String}

/-! ## Reading after the choice of a place -/

/-- Choosing leaves all texts of the system keyring but the one that it is tried out with. -/
theorem find?_choose (s : Site) {key : String} (hkey : key ≠ SystemKeyring.probeKey) :
    ((choose s).state.keyring.entriesOf s.config.serviceName).find? key =
      (s.keyring.entriesOf s.config.serviceName).find? key := by
  have hrest := (yields_self choose s).of_bind (yields_state s)
  generalize (choose s).answer = r at hrest
  generalize (choose s).state = s' at hrest ⊢
  by_cases hfile : s.config.backend = .file
  · rw [if_pos hfile] at hrest
    obtain ⟨-, rfl⟩ := (yields_pure _ s).unique hrest
    rfl
  rw [if_neg hfile] at hrest
  by_cases hinjected : s.injected.isSome = true
  · rw [if_pos hinjected] at hrest
    obtain ⟨-, rfl⟩ := (yields_pure _ s).unique hrest
    rfl
  rw [if_neg hinjected] at hrest
  have havailable := SystemKeyring.find?_isAvailable s.config.serviceName s.keyring hkey
  rcases hrest.bind_cases with ⟨e, htried, -⟩ | ⟨b, s₁, htried, hrest⟩
  · obtain ⟨k, ⟨-, rfl⟩, rfl⟩ := htried.of_zoom
    exact havailable
  · obtain ⟨k, ⟨-, rfl⟩, rfl⟩ := htried.of_zoom
    -- what is answered then changes nothing
    have hs' : s' = { s with keyring := (SystemKeyring.isAvailable s.config.serviceName s.keyring).state } := by
      split at hrest
      · exact ((yields_pure _ _).unique hrest).2.symm
      · split at hrest
        · exact ((yields_throw _ _).unique hrest).2.symm
        · exact ((yields_pure _ _).unique hrest).2.symm
    rw [hs']
    exact havailable

/-- What is read of a key is the same before and after the choice of a place. -/
theorem answer_retrieve_choose (s : Site) (p : Place) {key : String}
    (hkey : key ≠ SystemKeyring.probeKey) :
    (SecretStore.retrieve key ((choose s).state.secretStore p)).answer =
      (SecretStore.retrieve key (s.secretStore p)).answer := by
  have hfind := find?_choose s hkey
  obtain ⟨k, hchoose, hmode, -⟩ := exists_choose s
  rw [hchoose.2] at hfind ⊢
  cases p with
  | injected => rfl
  | _ => exact SecretStore.answer_retrieve_congr (congrArg KeyringMode.faults hmode) hfind

/-! ## Settling a migration -/

/-- A migration that is settled stays so, and one that is not is looked for. -/
theorem settleMigration_steps {find : Op Site MigrationState}
    {r : Except CredentialError MigrationState} (h : (settleMigration find).Yields s r s') :
    (s.migration.isReady = true ∧ r = .ok s.migration ∧ s' = s) ∨
    s.migration = .unchecked ∧
      ((∃ e, find.Yields s (.error e) s' ∧ r = .error e) ∨
        ∃ m w, find.Yields s (.ok m) w ∧ r = .ok m ∧ s' = { w with migration := m }) := by
  cases hmigration : s.migration with
  | unchecked =>
    refine .inr ⟨rfl, ?_⟩
    have hrest := h.of_bind (yields_state s)
    rw [hmigration] at hrest
    rcases hrest.bind_cases with hfailed | ⟨m, w, hfind, hrest⟩
    · exact .inl hfailed
    · obtain ⟨rfl, rfl⟩ := (yields_settleMigration hmigration hfind).unique h
      exact .inr ⟨m, w, hfind, rfl, rfl⟩
  | _ =>
    rw [Yields, settleMigration_of_ready (by rw [hmigration]; rfl), hmigration] at h
    exact .inl ⟨rfl, h.1.symm, h.2.symm⟩

/-- Where an entry can be read, it is migrated; otherwise nothing is. -/
theorem migrate_steps {r : Except CredentialError MigrationState}
    (h : (migrate p fresh).Yields s r s') :
    ∃ t, (s.secretStore p).Keeps t ∧
      ((LegacyStore.isPresent.Yields (s.secretStore p) (.ok false) t ∧ r = .ok .notNeeded ∧
        s' = s.putSecretStore p t) ∨
      LegacyStore.isPresent.Yields (s.secretStore p) (.ok true) t ∧
        ∃ q, (Migration.run (legacy p) ((s.putSecretStore p t).service p) fresh).Yields
          (s.putSecretStore p t) q s' ∧ r = .ok (.ofRun q)) := by
  have hself := yields_self LegacyStore.isPresent (s.secretStore p)
  have hzoom : (zoom (secretStore p) (putSecretStore p) LegacyStore.isPresent).Yields s _ _ :=
    hself.zoom
  obtain ⟨hkeeps, ⟨htrue, -⟩ | ⟨hfalse, -⟩⟩ := LegacyStore.isPresent_cases hself
  · rw [htrue] at hself hzoom
    refine ⟨_, hkeeps, .inr ⟨hself, ?_⟩⟩
    have hrest := (h.of_bind hzoom).of_bind (yields_state _)
    obtain ⟨q, w, hrun, hrest⟩ := hrest.of_bind_attempt
    cases q with
    | ok report =>
      obtain ⟨rfl, rfl⟩ := (yields_pure _ w).unique hrest
      exact ⟨_, hrun, rfl⟩
    | error e =>
      obtain ⟨rfl, rfl⟩ := (yields_pure _ w).unique (hrest.of_bind (yields_warn _ w))
      exact ⟨_, hrun, rfl⟩
  · rw [hfalse] at hself hzoom
    obtain ⟨rfl, rfl⟩ := (yields_pure _ _).unique (h.of_bind hzoom)
    exact ⟨_, hkeeps, .inl ⟨hself, rfl, rfl⟩⟩

/-- Nothing is migrated where no entry was read: there is none, or it cannot be read. -/
theorem migrate_eq_notNeeded_iff :
    (migrate p fresh s).answer = .ok .notNeeded ↔
      ∀ text, (SecretStore.retrieve KeyringStore.legacyKey (s.secretStore p)).answer ≠
        .ok (some text) := by
  obtain ⟨t, -, ⟨hpresent, hr, -⟩ | ⟨hpresent, q, -, hr⟩⟩ := migrate_steps (yields_self _ s)
  · rw [hr]
    obtain ⟨-, ⟨htrue, -⟩ | ⟨-, hnone⟩⟩ := LegacyStore.isPresent_cases hpresent
    · cases htrue
    · exact ⟨fun _ => hnone, fun _ => rfl⟩
  · rw [hr]
    obtain ⟨-, ⟨-, text, htext⟩ | ⟨hfalse, -⟩⟩ := LegacyStore.isPresent_cases hpresent
    · -- what was tried is not passed over
      refine ⟨fun h => ?_, fun hnone => absurd htext (hnone text)⟩
      cases q <;> cases h
    · cases hfalse

/-! ## Migrations within a secret store that was handed over -/

/-- The second site is the first one with a secret store handed to it. -/
def IsHanded (s : Site) (t : SecretStore) (s' : Site) : Prop :=
  s' = { s with injected := some t }

theorem corresponds_onInjected {α : Type} (x : Op SecretStore α) :
    Corresponds s.IsHanded Eq x (zoom (secretStore .injected) (putSecretStore .injected) x) := by
  rintro t s' rfl
  exact ⟨_, _, _, _, yields_self x t, yields_onInjected rfl (yields_self x t),
    .refl (fun _ => rfl) _, rfl⟩

/-- What a run of the migration leaves of a secret store. -/
def migrated (fresh : Nat → String) (t : SecretStore) : SecretStore :=
  (Migration.run LegacyStore.service KeyringStore.service fresh (LegacyStore.isPresent t).state).state

/-- A migration leaves all texts, or what its run within the secret store leaves. -/
theorem migrate_injected_cases (hs : s.injected = some t)
    {r : Except CredentialError MigrationState} (h : (migrate .injected fresh).Yields s r s') :
    ∃ u, s' = { s with injected := some u } ∧
      ((r = .ok .notNeeded ∧ t.Keeps u) ∨
      ∃ t₁ q, t.Keeps t₁ ∧ u = migrated fresh t ∧ r = .ok (.ofRun q) ∧
        (Migration.run LegacyStore.service KeyringStore.service fresh).Yields t₁ q u) := by
  have hpart : s.secretStore .injected = t := by
    rw [secretStore, hs]
    rfl
  obtain ⟨t₁, hkeeps, ⟨-, hr, hs'⟩ | ⟨hpresent, q, hrun, hr⟩⟩ := migrate_steps h
  · rw [hpart] at hkeeps
    exact ⟨t₁, hs', .inl ⟨hr, hkeeps⟩⟩
  rw [hpart] at hkeeps hpresent
  -- the run at the site is told by the one in its store
  have hcorresponds : Corresponds s.IsHanded Eq
      (Migration.run LegacyStore.service KeyringStore.service fresh)
      (Migration.run (legacy .injected) (s.service .injected) fresh) :=
    Migration.corresponds_run fresh (corresponds_onInjected _) (corresponds_onInjected _)
      (fun _ _ => corresponds_onInjected _) (corresponds_onInjected _)
  obtain ⟨q', s'', hrun', hanswers, rfl⟩ :=
    hcorresponds.exists_of_yields rfl (yields_self _ t₁)
  obtain ⟨rfl, rfl⟩ := hrun.unique hrun'
  obtain rfl := hanswers.eq
  refine ⟨_, rfl, .inr ⟨t₁, _, hkeeps, ?_, hr, yields_self _ t₁⟩⟩
  rw [migrated, hpresent.2]

/-! ## Opening -/

/-- An open chooses a place, and settles the migration of it unless it cannot get to the file. -/
theorem openStore_steps {r : Except CredentialError Opened} (h : (openStore fresh).Yields s r s') :
    ∃ k, choose.Yields s s.chosen { s with keyring := k } ∧
      ((∃ e, r = .error e ∧ s' = { s with keyring := k }) ∨
      (s.chosen = .ok .file ∧ ∃ d, (∃ e, r = .error e ∧ s' = { s with keyring := k, disk := d }) ∨
        ∃ q, (settleMigration (pure .notNeeded)).Yields { s with keyring := k, disk := d } q s' ∧
          r = q.map (⟨.file, ·⟩)) ∨
      ∃ p, p ≠ .file ∧ s.chosen = .ok p ∧
        ∃ q, (settleMigration (migrate p fresh)).Yields { s with keyring := k } q s' ∧
          r = q.map (⟨p, ·⟩)) := by
  obtain ⟨k, hchoose, -⟩ := exists_choose s
  refine ⟨k, hchoose, ?_⟩
  generalize s.chosen = chosen at hchoose ⊢
  cases chosen with
  | error e =>
    obtain ⟨rfl, rfl⟩ := hchoose.bind_error.unique h
    exact .inl ⟨e, rfl, rfl⟩
  | ok p =>
    have hrest := h.of_bind hchoose
    cases p with
    | file =>
      refine .inr (.inl ⟨rfl, ?_⟩)
      rcases (hrest.of_bind (yields_state _)).bind_cases with ⟨e, hsetUp, rfl⟩ | ⟨a, w, hsetUp, hrest⟩
      · obtain ⟨d, -, rfl⟩ := hsetUp.of_zoom
        exact ⟨d, .inl ⟨e, rfl, rfl⟩⟩
      · obtain ⟨d, -, rfl⟩ := hsetUp.of_zoom
        obtain ⟨q, hsettle, rfl⟩ := Yields.of_map hrest
        exact ⟨d, .inr ⟨q, hsettle, rfl⟩⟩
    | _ =>
      obtain ⟨q, hsettle, rfl⟩ := Yields.of_map hrest
      exact .inr (.inr ⟨_, by decide, rfl, q, hsettle, rfl⟩)

end Site

end CredentialStore
