import CredentialStore.Proofs.Site.History

/-!
# A migration that is settled once

The first open that serves a keyring (`ensure_migrated`) looks for what is left of the legacy entry
and copies it, or finds that there is nothing to copy. Whatever comes of it, no later open looks
again, so what it took for nothing is never migrated.

Main statements:

* `notNeeded_iff_of_checks` — what an open takes for nothing to migrate: there is nothing, or the
  read of it fails;
* `migratesOnce_history` — at most one open writes to a secret store that was handed over, and what
  it writes is one run of the migration.
-/

namespace CredentialStore

open Op
open KeyringStore (legacyKey listed Adds)

/-! ## What is taken for nothing to migrate -/

/-- An open serves a keyring, and the migration is not settled before. -/
structure Moment.Checks (m : Moment) (p : Place) : Prop where
  exists_open : ∃ fresh o, m.event = .openStore fresh ∧
    (Site.openStore fresh m.before).answer = .ok o ∧ o.place = p
  place_ne : p ≠ .file
  unchecked : m.before.migration = .unchecked

namespace Site

variable {s : Site} {p : Place} {m : Moment} {events : List Event}

/-- What an open settles is what looking for the legacy entry comes to. -/
theorem exists_migrate_of_checks (h : m.Checks p) :
    ∃ fresh, (migrate p fresh (choose m.before).state).answer = .ok m.after.migration := by
  obtain ⟨⟨fresh, o, hevent, hanswer, hplace⟩, hp, hunchecked⟩ := h
  obtain ⟨s, e⟩ := m
  subst hevent
  have hopen : (openStore fresh).Yields s (.ok o) (openStore fresh s).state := ⟨hanswer, rfl⟩
  refine ⟨fresh, ?_⟩
  show _ = Except.ok (openStore fresh s).state.migration
  generalize (openStore fresh s).state = s' at hopen ⊢
  obtain ⟨k, hchoose, ⟨e, he, -⟩ | ⟨-, d, ⟨e, he, -⟩ | ⟨q, -, hr⟩⟩ |
    ⟨p', -, -, q, hsettle, hr⟩⟩ := openStore_steps hopen
  · cases he
  · cases he
  · -- the file is no keyring
    cases q with
    | error e => cases hr
    | ok q =>
      cases hr
      exact absurd hplace.symm hp
  · cases q with
    | error e => cases hr
    | ok q =>
      cases hr
      obtain rfl : p' = p := hplace
      rw [hchoose.2]
      rcases settleMigration_steps hsettle with
        ⟨hready, -⟩ | ⟨-, ⟨e, -, he⟩ | ⟨m, w, hfind, -, rfl⟩⟩
      · rw [show s.migration = .unchecked from hunchecked] at hready
        cases hready
      · cases he
      · exact hfind.1

/-- An open that looks for something to migrate finds nothing exactly if there is no legacy entry
or the read of it fails. Whatever it was, no later open looks again: an entry that
could not be read stays behind. -/
theorem notNeeded_iff_of_checks {before after : List Moment}
    (hhistory : s.history events = before ++ m :: after) (hm : m.Checks p) :
    (m.after.migration = .notNeeded ↔
      (m.before.secretStore p).entries.find? legacyKey = none ∨
        ∃ e, (SecretStore.retrieve legacyKey (m.before.secretStore p)).answer = .error e) ∧
      (m.after.migration = .notNeeded → ∀ m' ∈ after, m'.after.migration = .notNeeded) := by
  constructor
  · obtain ⟨fresh, hmigrate⟩ := exists_migrate_of_checks hm
    have hiff : (migrate p fresh (choose m.before).state).answer = .ok .notNeeded ↔ _ :=
      migrate_eq_notNeeded_iff
    rw [hmigrate, Except.ok.injEq, answer_retrieve_choose m.before p (by decide)] at hiff
    rw [hiff]
    -- a read that answers tells whether there is an entry
    obtain ⟨-, hread | ⟨e, hread⟩⟩ := SecretStore.retrieve_cases
      (yields_self (SecretStore.retrieve legacyKey) (m.before.secretStore p))
    · rw [hread]
      cases (m.before.secretStore p).entries.find? legacyKey with
      | none => exact ⟨fun _ => .inl rfl, fun _ => nofun⟩
      | some text =>
        exact ⟨fun h => absurd rfl (h text), fun h => h.elim nofun fun ⟨_, he⟩ => nomatch he⟩
    · rw [hread]
      exact ⟨fun _ => .inr ⟨e, rfl⟩, fun _ => nofun⟩
  · intro hnotNeeded m' hm'
    obtain ⟨later, rfl⟩ := exists_history_of_eq_append hhistory
    rw [(migration_of_mem_history (by rw [hnotNeeded]; rfl) hm').2, hnotNeeded]

/-- One legacy credential, in a store whose first read of it fails. -/
def legacyLockedOnce : SecretStore where
  entries := SortedTable.empty.insert legacyKey
    "\x7b\"home\": \x7b\"guid\": \"g\", \"url\": \"https://a.b\", \"apiKey\": \"k\"\x7d\x7d"
  faults := [{ call := .retrieve, keyStart := legacyKey, error := .keyring "locked", times := some 1 }]

/-- It is taken for nothing to migrate, though it is there, then and whenever the store is opened
later.
-/
theorem not_legacy_eq_none_lockedOnce :
    ∃ m m', history { injected := some legacyLockedOnce }
        [.openStore fun _ => "", .openStore fun _ => ""] = [m, m'] ∧
      m.after.migration = .notNeeded ∧
      (m.before.secretStore .injected).entries.find? legacyKey ≠ none ∧
      m'.after.migration = .notNeeded ∧ m'.after.texts = some legacyLockedOnce.entries := by
  refine ⟨_, _, rfl, ?_⟩
  have hchecks : Moment.Checks
      ⟨{ injected := some legacyLockedOnce }, .openStore fun _ => ""⟩ .injected :=
    ⟨⟨_, ⟨.injected, .notNeeded⟩, rfl, by decide +kernel, rfl⟩, by decide, rfl⟩
  have hhistory : history { injected := some legacyLockedOnce }
      [.openStore fun _ => "", .openStore fun _ => ""] = [] ++ _ :: [_] := rfl
  obtain ⟨hiff, hlater⟩ := notNeeded_iff_of_checks hhistory hchecks
  have hnotNeeded := hiff.2 (.inr ⟨.keyring "locked", by decide +kernel⟩)
  exact ⟨hnotNeeded, by decide +kernel, hlater hnotNeeded _ (List.mem_singleton.2 rfl),
    by decide +kernel⟩

end Site

/-! ## One migration for a secret store that was handed over -/

/-- An open that changes a text of the secret store that was handed over. -/
def Moment.OpenWrites (m : Moment) : Prop :=
  (∃ fresh, m.event = .openStore fresh) ∧ m.after.texts ≠ m.before.texts

/-- The credentials that are listed after a moment are those that were listed before it, and a
number of others. -/
def Moment.AddsCount (m : Moment) (count : Nat) : Prop :=
  ∃ t u ds es added, m.before.injected = some t ∧ m.after.injected = some u ∧ listed t = .ok ds ∧
    listed u = .ok es ∧ es.Perm (ds ++ added) ∧ added.length = count

/-- An open whose migration fails: it answers all the same, the legacy entry is as it was, and
all credentials that were listed still are. -/
def Moment.OpensUnmigrated (m : Moment) (reason : String) : Prop :=
  ∃ fresh t u added, m.event = .openStore fresh ∧ m.before.injected = some t ∧
    m.after.injected = some u ∧
    (Site.openStore fresh m.before).answer = .ok ⟨.injected, .failed reason⟩ ∧
    u.entries.find? legacyKey = t.entries.find? legacyKey ∧
    ∀ ds, listed t = .ok ds → ∃ es, listed u = .ok es ∧ es.Perm (ds ++ added)

/-- At most one of the moments migrates, and that as the migration is meant to. -/
structure MigratesOnce (ms : List Moment) : Prop where
  /-- Once it is settled, a migration stays as it is. -/
  settles_once : ms.Pairwise fun m m' => m.after.migration ≠ .unchecked →
    m'.before.migration = m.after.migration ∧ m'.after.migration = m.after.migration
  /-- At most one open writes. -/
  writes_once : ms.Pairwise fun m m' => m.OpenWrites → ¬ m'.OpenWrites
  /-- An open that writes settles the migration, and leaves what one run of it leaves. -/
  runs : ∀ m ∈ ms, ∀ fresh, m.event = .openStore fresh → m.OpenWrites →
    m.before.migration = .unchecked ∧ m.after.migration ≠ .unchecked ∧
      m.after.injected = m.before.injected.map (Site.migrated fresh)
  /-- Opening for a reset writes nothing, and neither does asking. -/
  keeps : ∀ m ∈ ms, m.event = .openForReset ∨ m.event = .migrationState →
    m.after.texts = m.before.texts
  /-- An open reports the migration as it leaves it. -/
  reports : ∀ m ∈ ms, ∀ fresh o, m.event = .openStore fresh →
    (Site.openStore fresh m.before).answer = .ok o → o.migration = m.after.migration
  /-- The number of a finished migration is that of the credentials it has added. -/
  adds : ∀ m ∈ ms, m.before.migration = .unchecked → ∀ count,
    m.after.migration = .migrated count → m.AddsCount count
  opens : ∀ m ∈ ms, m.before.migration = .unchecked → ∀ reason,
    m.after.migration = .failed reason → m.OpensUnmigrated reason

namespace Moment

variable {m : Moment}

/-- Only an open settles a migration. -/
theorem exists_openStore (hbefore : m.before.migration = .unchecked)
    (hafter : m.after.migration ≠ .unchecked) : ∃ fresh, m.event = .openStore fresh := by
  obtain ⟨s, e⟩ := m
  cases e with
  | openStore fresh => exact ⟨fresh, rfl⟩
  | openForReset => exact absurd ((Site.goesOn_choose s).migration_eq.trans hbefore) hafter
  | reset => exact absurd ((Site.goesOn_reset s).migration_eq.trans hbefore) hafter
  | migrationState => exact absurd hbefore hafter
  | outside store keyring disk => exact absurd hbefore hafter

section OpenStore

variable {fresh : Nat → String} {t : SecretStore} (hevent : m.event = .openStore fresh)
  (hs : m.before.injected = some t)

include hevent hs

/-- The cases of an open, for a moment. -/
theorem openStore_cases :
    ((∃ u, m.after.injected = some u ∧ t.Keeps u) ∧
      (m.after.migration = m.before.migration ∨
        m.before.migration = .unchecked ∧ m.after.migration = .notNeeded) ∧
      ∀ o, (Site.openStore fresh m.before).answer = .ok o → o.migration = m.after.migration) ∨
    m.before.migration = .unchecked ∧ ∃ t₁ q, t.Keeps t₁ ∧
      m.after.injected = some (Site.migrated fresh t) ∧ m.after.migration = .ofRun q ∧
      (Site.openStore fresh m.before).answer = .ok ⟨.injected, .ofRun q⟩ ∧
      (Migration.run LegacyStore.service KeyringStore.service fresh).Yields t₁ q
        (Site.migrated fresh t) := by
  have hafter : m.after = (Site.openStore fresh m.before).state := by rw [after, hevent, Event.effect]
  rw [hafter]
  exact Site.openStore_injected_cases hs (yields_self (Site.openStore fresh) m.before)

theorem runs_of_openWrites (h : m.OpenWrites) :
    m.before.migration = .unchecked ∧ m.after.migration ≠ .unchecked ∧
      m.after.injected = m.before.injected.map (Site.migrated fresh) := by
  rcases openStore_cases hevent hs with ⟨⟨u, hu, hkeeps⟩, -⟩ | ⟨hunchecked, t₁, q, -, hu, hq, -⟩
  · exact absurd (Site.texts_eq_of_keeps hs hu hkeeps) h.2
  · refine ⟨hunchecked, ?_, by rw [hu, hs, Option.map_some]⟩
    rw [hq]
    cases q <;> nofun

theorem migration_of_openStore {o : Opened}
    (ho : (Site.openStore fresh m.before).answer = .ok o) : o.migration = m.after.migration := by
  rcases openStore_cases hevent hs with ⟨-, -, hreports⟩ | ⟨-, t₁, q, -, -, hq, hanswer, -⟩
  · exact hreports o ho
  · rw [hanswer] at ho
    cases ho
    exact hq.symm

theorem addsCount_of_migrated (hunchecked : m.before.migration = .unchecked) {count : Nat}
    (h : m.after.migration = .migrated count) : m.AddsCount count := by
  rcases openStore_cases hevent hs with
    ⟨-, hsame | ⟨-, hnot⟩, -⟩ | ⟨-, t₁, q, hkeeps, hu, hq, -, hrun⟩
  · rw [hsame, hunchecked] at h
    cases h
  · rw [hnot] at h
    cases h
  · rw [hq] at h
    rcases Migration.adds_of_run hrun with
      ⟨report, ds, added, es, rfl, hds, hes, hperm, hlength⟩ | ⟨⟨e, rfl⟩, -⟩
    · cases h
      rw [KeyringStore.listed_of_keeps hkeeps] at hds
      exact ⟨t, _, ds, es, added, hs, hu, hds, hes, hperm, hlength⟩
    · cases h

theorem opensUnmigrated_of_failed (hunchecked : m.before.migration = .unchecked) {reason : String}
    (h : m.after.migration = .failed reason) : m.OpensUnmigrated reason := by
  rcases openStore_cases hevent hs with
    ⟨-, hsame | ⟨-, hnot⟩, -⟩ | ⟨-, t₁, q, hkeeps, hu, hq, hanswer, hrun⟩
  · rw [hsame, hunchecked] at h
    cases h
  · rw [hnot] at h
    cases h
  · rw [hq] at h
    rcases Migration.adds_of_run hrun with ⟨report, -, -, -, rfl, -⟩ | ⟨⟨e, rfl⟩, added, hadds⟩
    · cases h
    · cases h
      have hadds := (Adds.of_keeps hkeeps).trans hadds
      exact ⟨fresh, t, _, _, hevent, hs, hu, hanswer, hadds.keepsLegacy.legacy_eq,
        hadds.exists_list⟩

end OpenStore

end Moment

namespace Site

variable {s : Site} {m : Moment} {events : List Event}

/-- What holds between a moment and each later one of any site holds between those of a site. -/
theorem pairwise_history {P : Site → Prop} {Q : Moment → Moment → Prop} (hs : P s)
    (heffect : ∀ s (e : Event), P s → P (e.effect s))
    (hQ : ∀ s (e : Event) events, P s → ∀ m ∈ (e.effect s).history events, Q ⟨s, e⟩ m) :
    (s.history events).Pairwise Q := by
  induction events generalizing s with
  | nil => exact .nil
  | cons e events ih => exact .cons (hQ s e events hs) (ih (heffect s e hs))

theorem isReady_of_ne_unchecked {m : MigrationState} (h : m ≠ .unchecked) : m.isReady = true := by
  cases m with
  | unchecked => exact absurd rfl h
  | _ => rfl

/-- Whatever happens to a site with a secret store that was handed to it, whichever calls fail and
whatever others write in between, its migration is settled once and runs once at most. -/
theorem migratesOnce_history (hs : s.injected.isSome = true) (events : List Event) :
    MigratesOnce (s.history events) := by
  have hinjected : ∀ {m}, m ∈ s.history events → ∃ t, m.before.injected = some t := fun hm =>
    Option.isSome_iff_exists.1 (isSome_of_mem_history hs hm)
  have heffect : ∀ s (e : Event), s.injected.isSome = true →
      (e.effect s).injected.isSome = true := fun _ e h => e.isSome_effect h
  constructor
  · refine pairwise_history hs heffect fun s e events _ m hm hne => ?_
    exact migration_of_mem_history (isReady_of_ne_unchecked hne) hm
  · refine pairwise_history hs heffect fun s e events hs m hm hwrites hwrites' => ?_
    -- the second open would have found the migration settled
    obtain ⟨t, ht⟩ := Option.isSome_iff_exists.1 hs
    obtain ⟨⟨fresh, hevent⟩, -⟩ := id hwrites
    obtain ⟨-, hne, -⟩ := Moment.runs_of_openWrites hevent ht hwrites
    have hsettled := (migration_of_mem_history (isReady_of_ne_unchecked hne) hm).1
    obtain ⟨t', ht'⟩ := Option.isSome_iff_exists.1 (isSome_of_mem_history (heffect s e hs) hm)
    obtain ⟨⟨fresh', hevent'⟩, -⟩ := id hwrites'
    exact hne (hsettled.symm.trans (Moment.runs_of_openWrites hevent' ht' hwrites').1)
  · intro m hm fresh hevent hwrites
    obtain ⟨t, ht⟩ := hinjected hm
    exact Moment.runs_of_openWrites hevent ht hwrites
  · rintro m hm (hevent | hevent)
    · obtain ⟨k, hchoose, -⟩ := exists_choose m.before
      rw [Moment.after, hevent, Event.effect, openForReset, hchoose.2, texts, texts]
    · rw [Moment.after, hevent, Event.effect]
  · intro m hm fresh o hevent ho
    obtain ⟨t, ht⟩ := hinjected hm
    exact Moment.migration_of_openStore hevent ht ho
  · intro m hm hunchecked count h
    obtain ⟨t, ht⟩ := hinjected hm
    obtain ⟨fresh, hevent⟩ := Moment.exists_openStore hunchecked (by simp [h])
    exact Moment.addsCount_of_migrated hevent ht hunchecked h
  · intro m hm hunchecked reason h
    obtain ⟨t, ht⟩ := hinjected hm
    obtain ⟨fresh, hevent⟩ := Moment.exists_openStore hunchecked (by simp [h])
    exact Moment.opensUnmigrated_of_failed hevent ht hunchecked h

/-- One legacy credential, in a store in which no call fails. -/
def legacyOnly : SecretStore :=
  legacyLockedOnce.restored

/-- The one credential is migrated; when it appears again, it is left alone. -/
theorem migratesOnce_history_reappeared :
    let events := [.openForReset, .openStore fun _ => "", .outside legacyOnly {} {},
      .openStore fun _ => "", .migrationState]
    let ms := history { injected := some legacyOnly } events
    MigratesOnce ms ∧
      ms.map (·.after.migration) =
        [.unchecked, .migrated 1, .migrated 1, .migrated 1, .migrated 1] ∧
      ms.map (·.after.texts == some legacyOnly.entries) = [true, false, true, true, true] :=
  ⟨migratesOnce_history rfl _, by decide +kernel, by decide +kernel⟩

end Site

end CredentialStore
