import CredentialStore.Proofs.Site.Opening

/-!
# What happens to a site

A site is opened, opened for a reset and reset any number of times, and in between others may change
whatever it can reach: the texts of secret stores, which calls of them fail, and the disk. A
migration that is settled stays as it is, and a site that has a secret store keeps one.

Main statements:

* `goesOn_reset` — a reset leaves the migration as it is;
* `openStore_injected_cases` — what an open does to a secret store that was handed over;
* `migration_of_mem_history` — a settled migration stays as it is for the whole of a history.
-/

namespace CredentialStore

open Op

/-- What happens to a site. -/
inductive Event where
  /-- It is opened; the function draws identifiers. -/
  | openStore (fresh : Nat → String)
  | openForReset
  | reset
  /-- It is asked what has become of its migration. -/
  | migrationState
  /-- Others change what it can reach. -/
  | outside (store : SecretStore) (keyring : SystemKeyring) (disk : Disk)

/-- The site after an event. -/
def Event.effect : Event → Site → Site
  | .openStore fresh, s => (Site.openStore fresh s).state
  | .openForReset, s => (Site.openForReset s).state
  | .reset, s => (Site.reset s).state
  | .migrationState, s => s
  | .outside store keyring disk, s =>
    { s with injected := s.injected.map fun _ => store, keyring, disk }

/-- An event and the site that it happens to. -/
structure Moment where
  before : Site
  event : Event

/-- The site after the event of a moment. -/
def Moment.after (m : Moment) : Site :=
  m.event.effect m.before

namespace Site

variable {s s' : Site} {p : Place} {t : SecretStore} {fresh : Nat → String} {m m' : Moment}
  {events : List Event}

/-- The moments of a site to which events happen one after the other. -/
def history (s : Site) : List Event → List Moment
  | [] => []
  | e :: events => ⟨s, e⟩ :: (e.effect s).history events

/-- The texts of the secret store that was handed over. -/
def texts (s : Site) : Option (SortedTable String) :=
  s.injected.map (·.entries)

theorem texts_eq_of_keeps {u : SecretStore} (hs : s.injected = some t) (hs' : s'.injected = some u)
    (hkeeps : t.Keeps u) : s'.texts = s.texts := by
  rw [texts, texts, hs, hs', Option.map_some, Option.map_some, hkeeps.entries_eq]

/-! ## What no event changes -/

/-- A site goes on with its migration as it is and with a secret store if it has one. -/
structure GoesOn (s s' : Site) : Prop where
  migration_eq : s'.migration = s.migration
  isSome : s.injected.isSome = true → s'.injected.isSome = true

theorem GoesOn.trans {s'' : Site} (h : s.GoesOn s') (h' : s'.GoesOn s'') : s.GoesOn s'' :=
  ⟨h'.migration_eq.trans h.migration_eq, fun hs => h'.isSome (h.isSome hs)⟩

theorem goesOn_putSecretStore (p : Place) (s : Site) (t : SecretStore) :
    s.GoesOn (s.putSecretStore p t) := by
  cases p with
  | injected => exact ⟨rfl, fun _ => rfl⟩
  | _ => exact ⟨rfl, id⟩

theorem goesOn_choose (s : Site) : s.GoesOn (choose s).state := by
  obtain ⟨k, hchoose, -⟩ := exists_choose s
  rw [hchoose.2]
  exact ⟨rfl, id⟩

/-- A reset does not touch the migration. -/
theorem goesOn_reset (s : Site) : s.GoesOn (reset s).state := by
  have h := yields_self reset s
  generalize (reset s).answer = r at h
  generalize (reset s).state = s' at h ⊢
  have hchoose := goesOn_choose s
  rcases h.bind_cases with ⟨e, ⟨-, rfl⟩, -⟩ | ⟨p, s₁, ⟨-, rfl⟩, hrest⟩
  · exact hchoose
  have hservice : ∀ {w w' q}, ((s : Site) → (s.service p).reset.Yields w q w' → w.GoesOn w') := by
    intro w w' q s hreset
    cases p with
    | file =>
      obtain ⟨d, -, rfl⟩ := hreset.of_zoom
      exact ⟨rfl, id⟩
    | _ =>
      obtain ⟨t, -, rfl⟩ := hreset.of_zoom
      exact goesOn_putSecretStore _ w t
  rcases (hrest.of_bind (yields_state _)).bind_cases with
    ⟨e, hreset, -⟩ | ⟨outcome, s₂, hreset, hrest⟩
  · exact hchoose.trans (hservice _ hreset)
  refine hchoose.trans ((hservice _ hreset).trans ?_)
  -- at a keyring the legacy entry is removed as well
  by_cases hp : p = .file
  · subst hp
    rw [if_neg (by decide)] at hrest
    obtain ⟨-, rfl⟩ := (yields_pure outcome s₂).unique hrest
    exact ⟨rfl, id⟩
  · rw [if_pos hp] at hrest
    obtain ⟨q, s₃, hlegacy, hrest⟩ := hrest.of_bind_attempt
    obtain ⟨t, -, rfl⟩ := hlegacy.of_zoom
    have hput := goesOn_putSecretStore p s₂ t
    cases q with
    | ok _ =>
      obtain ⟨-, rfl⟩ := (yields_pure outcome _).unique hrest
      exact hput
    | error e =>
      obtain ⟨-, rfl⟩ := (yields_pure outcome _).unique (hrest.of_bind (yields_warn _ _))
      exact hput

/-- An open of a site whose migration is settled leaves it so. -/
theorem migration_openStore (h : s.migration.isReady = true) :
    (openStore fresh s).state.migration = s.migration := by
  -- whatever is opened, the migration is not looked for
  have hready : ∀ {w w' : Site} {find q}, (settleMigration find).Yields w q w' →
      w.migration = s.migration → w'.migration = s.migration := by
    intro w w' find q hsettle hw
    rcases settleMigration_steps hsettle with ⟨-, -, rfl⟩ | ⟨hunchecked, -⟩
    · exact hw
    · rw [← hw, hunchecked] at h
      cases h
  obtain ⟨k, -, ⟨e, -, hs'⟩ | ⟨-, d, ⟨e, -, hs'⟩ | ⟨q, hsettle, -⟩⟩ | ⟨p, -, -, q, hsettle, -⟩⟩ :=
    openStore_steps (yields_self (openStore fresh) s)
  · rw [hs']
  · rw [hs']
  · exact hready hsettle rfl
  · exact hready hsettle rfl

/-- An open leaves all texts of a secret store that was handed over, or is the one that runs the
migration. -/
theorem openStore_injected_cases (hs : s.injected = some t) {r : Except CredentialError Opened}
    (h : (openStore fresh).Yields s r s') :
    ((∃ u, s'.injected = some u ∧ t.Keeps u) ∧
      (s'.migration = s.migration ∨ s.migration = .unchecked ∧ s'.migration = .notNeeded) ∧
      ∀ o, r = .ok o → o.migration = s'.migration) ∨
    s.migration = .unchecked ∧ ∃ t₁ q, t.Keeps t₁ ∧ s'.injected = some (migrated fresh t) ∧
      s'.migration = .ofRun q ∧ r = .ok ⟨.injected, .ofRun q⟩ ∧
      (Migration.run LegacyStore.service KeyringStore.service fresh).Yields t₁ q
        (migrated fresh t) := by
  have hsame : ∃ u, s.injected = some u ∧ t.Keeps u := ⟨t, hs, .refl t⟩
  obtain ⟨k, -, ⟨e, rfl, rfl⟩ | ⟨-, d, hfile⟩ | ⟨p, hp, hchosen, q, hsettle, rfl⟩⟩ := openStore_steps h
  · exact .inl ⟨hsame, .inl rfl, nofun⟩
  · rcases hfile with ⟨e, rfl, rfl⟩ | ⟨q, hsettle, rfl⟩
    · exact .inl ⟨hsame, .inl rfl, nofun⟩
    · rcases settleMigration_steps hsettle with ⟨-, rfl, rfl⟩ | ⟨hunchecked, hfound⟩
      · exact .inl ⟨hsame, .inl rfl, fun o ho => by cases ho; rfl⟩
      · obtain ⟨e, hpure, -⟩ | ⟨m, w, hpure, rfl, rfl⟩ := hfound
        · cases hpure.1
        · obtain ⟨hm, rfl⟩ := (yields_pure _ _).unique hpure
          cases hm
          exact .inl ⟨hsame, .inr ⟨hunchecked, rfl⟩, fun o ho => by cases ho; rfl⟩
  · -- a secret store that was handed over is the keyring
    have hinjected : p = .injected := by
      rw [chosen, hs] at hchosen
      split at hchosen
      · cases hchosen
        exact absurd rfl hp
      · cases hchosen
        rfl
    subst hinjected
    rcases settleMigration_steps hsettle with ⟨-, rfl, rfl⟩ | ⟨hunchecked, hfound⟩
    · exact .inl ⟨hsame, .inl rfl, fun o ho => by cases ho; rfl⟩
    · rcases hfound with ⟨e, hmigrate, rfl⟩ | ⟨m, w, hmigrate, rfl, rfl⟩
      · obtain ⟨u, -, ⟨hr, -⟩ | ⟨t₁, q, -, -, hr, -⟩⟩ :=
          migrate_injected_cases (s := { s with keyring := k }) hs hmigrate
        · cases hr
        · cases hr
      · obtain ⟨u, rfl, ⟨hr, hkeeps⟩ | ⟨t₁, q, hkeeps, rfl, hr, hrun⟩⟩ :=
          migrate_injected_cases (s := { s with keyring := k }) hs hmigrate
        · cases hr
          exact .inl ⟨⟨u, rfl, hkeeps⟩, .inr ⟨hunchecked, rfl⟩, fun o ho => by cases ho; rfl⟩
        · cases hr
          exact .inr ⟨hunchecked, t₁, q, hkeeps, rfl, rfl, rfl, hrun⟩

end Site

/-! ## Events -/

namespace Event

variable {s : Site}

theorem migration_effect (e : Event) (h : s.migration.isReady = true) :
    (e.effect s).migration = s.migration := by
  cases e with
  | openStore fresh => exact Site.migration_openStore h
  | openForReset => exact (Site.goesOn_choose s).migration_eq
  | reset => exact (Site.goesOn_reset s).migration_eq
  | migrationState => rfl
  | outside store keyring disk => rfl

theorem isSome_effect (e : Event) (h : s.injected.isSome = true) :
    (e.effect s).injected.isSome = true := by
  cases e with
  | openStore fresh =>
    obtain ⟨t, hs⟩ := Option.isSome_iff_exists.1 h
    rcases Site.openStore_injected_cases hs (yields_self (Site.openStore fresh) s) with
      ⟨⟨u, hu, -⟩, -⟩ | ⟨-, t₁, q, -, hu, -⟩
    · rw [effect, hu]
      rfl
    · rw [effect, hu]
      rfl
  | openForReset => exact (Site.goesOn_choose s).isSome h
  | reset => exact (Site.goesOn_reset s).isSome h
  | migrationState => exact h
  | outside store keyring disk =>
    rw [effect, Option.isSome_map]
    exact h

end Event

namespace Site

variable {s : Site} {p : Place} {m : Moment} {events : List Event}

/-- Once a migration is settled, it stays as it is. -/
theorem migration_of_mem_history (h : s.migration.isReady = true) (hm : m ∈ s.history events) :
    m.before.migration = s.migration ∧ m.after.migration = s.migration := by
  induction events generalizing s with
  | nil => exact (List.not_mem_nil hm).elim
  | cons e events ih =>
    have heffect := e.migration_effect h
    rcases List.mem_cons.1 hm with rfl | hm
    · exact ⟨rfl, heffect⟩
    · rw [← heffect] at h ⊢
      exact ih h hm

theorem isSome_of_mem_history (h : s.injected.isSome = true) (hm : m ∈ s.history events) :
    m.before.injected.isSome = true := by
  induction events generalizing s with
  | nil => exact (List.not_mem_nil hm).elim
  | cons e events ih =>
    rcases List.mem_cons.1 hm with rfl | hm
    · exact h
    · exact ih (e.isSome_effect h) hm

/-- What comes after a moment happens to the site that the moment leaves. -/
theorem exists_history_of_eq_append {before after : List Moment}
    (h : s.history events = before ++ m :: after) :
    ∃ later, after = m.after.history later := by
  induction events generalizing s before with
  | nil => simp [history] at h
  | cons e events ih =>
    cases before with
    | nil =>
      obtain ⟨rfl, rfl⟩ := List.cons.inj h
      exact ⟨events, rfl⟩
    | cons x before => exact ih (List.cons.inj h).2

end Site

end CredentialStore
