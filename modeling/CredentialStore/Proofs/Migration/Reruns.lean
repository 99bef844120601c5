import CredentialStore.Proofs.Migration.Outcome
import CredentialStore.Proofs.Migration.Retries
import CredentialStore.Proofs.Migration.Within

/-!
# Migrations that are run again after they have succeeded

A migration that answers has stored every credential under its identifier, the one that was stored
or the one that its name determines. The legacy entry may stay, if it cannot be removed; then it is
migrated anew whenever a program starts. Each of these runs decodes the same text to the same
identifiers, finds all of them in the target and passes over them, so it writes nothing and goes on
to try the removal once more.

Nothing is assumed of the target, and any calls fail in the first run and in those after it.

Main statements:

* `Shows.copyAll` — after copies that answer, the target lists all identifiers;
* `migrate_steps` — a migration only reads until it copies;
* `HasAll.migrate` — what one more run comes to;
* `reruns_harmless` — however often it is run, nothing changes but the legacy entry.
-/

namespace CredentialStore

open Op
open KeyringStore (legacyKey)

/-! ## What stays beside the legacy entry -/

namespace World

/-- The second world has what the first one has, but for the legacy entry. -/
structure KeepsBeside (w w' : World) : Prop where
  disk_eq : w'.disk = w.disk
  store : SecretStore.KeepsBut legacyKey w.store w'.store
  other : SecretStore.KeepsBut legacyKey w.other w'.other

variable {w w' w'' : World}

theorem KeepsBeside.trans (h : w.KeepsBeside w') (h' : w'.KeepsBeside w'') : w.KeepsBeside w'' :=
  ⟨h'.disk_eq.trans h.disk_eq, h.store.trans h'.store, h.other.trans h'.other⟩

theorem Keeps.keepsBeside (h : w.Keeps w') : w.KeepsBeside w' :=
  ⟨h.disk_eq, h.store.keepsBut _, h.other.keepsBut _⟩

theorem Keeps.text_eq (h : w.Keeps w') (shelf : Shelf) : shelf.text w' = shelf.text w := by
  cases shelf with
  | store => exact congrArg (SortedTable.find? · legacyKey) h.store.entries_eq
  | other => exact congrArg (SortedTable.find? · legacyKey) h.other.entries_eq

theorem keeps_meeting (w : World) (a : Attempt) : w.Keeps (w.meeting a) :=
  ⟨rfl, ⟨rfl, rfl⟩, ⟨rfl, rfl⟩⟩

/-- No call that reads a secret store fails. -/
structure RespondsToReads (w : World) : Prop where
  store : w.store.RespondsToReads
  other : w.other.RespondsToReads

end World

namespace Shelf

variable {shelf : Shelf} {w w' : World}

theorem put_part (shelf : Shelf) (w : World) : shelf.put w (shelf.part w) = w := by
  cases shelf <;> rfl

theorem keeps_of_legacyList {r : Except CredentialError (List Credential)}
    (h : shelf.legacy.list.Yields w r w') :
    w.Keeps w' ∧ (r = LegacyStore.credentialsOf (shelf.text w) ∨ ∃ e, r = .error e) := by
  obtain ⟨s, hpart, rfl⟩ := h.of_zoom
  obtain ⟨hkeeps, -, hr⟩ := LegacyStore.list_cases hpart
  exact ⟨World.keeps_put shelf hkeeps, hr⟩

/-- A removal takes the legacy entry away or leaves it as it is, and nothing else changes. -/
theorem keepsBeside_of_legacyReset {r : Except CredentialError ResetOutcome}
    (h : shelf.legacy.reset.Yields w r w') :
    w.KeepsBeside w' ∧ (shelf.text w' = shelf.text w ∨ shelf.text w' = none) := by
  obtain ⟨s, hpart, rfl⟩ := h.of_zoom
  obtain ⟨q, hremove, -⟩ := hpart.of_map
  have hbut := SecretStore.keepsBut_of_remove hremove
  constructor
  · cases shelf with
    | store => exact ⟨rfl, hbut, (SecretStore.Keeps.refl _).keepsBut _⟩
    | other => exact ⟨rfl, (SecretStore.Keeps.refl _).keepsBut _, hbut⟩
  · rw [text, text, part_put]
    rcases SecretStore.discard_remove_cases hremove with ⟨-, hkeeps⟩ | ⟨-, hkeeps⟩
    · refine .inr (hkeeps.entries_eq ▸ ?_)
      show ((shelf.part w).entries.erase legacyKey).find? legacyKey = none
      rw [SortedTable.find?_erase, if_pos rfl]
    · exact .inl (by rw [hkeeps.entries_eq])

/-- Where reads do not fail, the legacy entry is listed by its text. -/
theorem yields_legacyList_of_reads (shelf : Shelf) (h : w.RespondsToReads) :
    shelf.legacy.list.Yields w (LegacyStore.credentialsOf (shelf.text w)) w := by
  have hpart : (shelf.part w).RespondsToReads := by
    cases shelf with
    | store => exact h.store
    | other => exact h.other
  have hrespects := KeyringStore.legacyList_respects
    (KeyringStore.respects_retrieve_asRestored hpart legacyKey)
  have hlist : LegacyStore.list.Yields (shelf.part w) _ (shelf.part w) :=
    KeyringStore.yields_of_respects_asRestored hrespects
      (LegacyStore.yields_list (SecretStore.responds_restored _))
  have hzoom : shelf.legacy.list.Yields w _ (shelf.put w (shelf.part w)) := hlist.zoom
  rwa [put_part] at hzoom

end Shelf

namespace Backend

variable {b : Backend} {shelf : Shelf} {w w' : World} {cs ds : List Credential}

/-- Where no call fails, a backend answers what it has answered: what it lists and in which order,
what it finds and which credential is preferred. -/
structure AnswersAlike (b : Backend) (w w' : World) : Prop where
  list_eq : (b.service.list w'.restored).answer = (b.service.list w.restored).answer
  get_eq : ∀ guid, (b.service.get guid w'.restored).answer = (b.service.get guid w.restored).answer
  defaultServer_eq :
    (b.service.defaultServer w'.restored).answer = (b.service.defaultServer w.restored).answer

/-- No backend looks at the legacy entry. -/
theorem answersAlike_of_keepsBeside (h : w.KeepsBeside w') (b : Backend) : b.AnswersAlike w w' := by
  cases b with
  | file path =>
    have hdisk : ∀ {α : Type} (x : Op Disk α), (x w'.disk).answer = (x w.disk).answer := by
      intro α x
      rw [h.disk_eq]
    exact ⟨hdisk _, fun guid => hdisk (FileStore.get path guid), hdisk _⟩
  | keyring =>
    have hrecord : ∀ guid, w'.store.entries.find? (KeyringStore.credentialKey guid) =
        w.store.entries.find? (KeyringStore.credentialKey guid) := fun guid =>
      h.store.find?_eq (KeyringStore.credentialKey_ne_legacyKey guid)
    have hreads : KeyringStore.ReadsAlike w.store.restored w'.store.restored := {
      responds_left := SecretStore.responds_restored _
      responds_right := SecretStore.responds_restored _
      listing_eq := h.store.listing_eq
      records_eq := fun guid => congrArg (Option.map _) (hrecord guid)
      index_eq := h.store.find?_eq (by decide)
      preferred_eq := h.store.find?_eq (by decide) }
    exact ⟨hreads.answersAlike.list_eq, hreads.answersAlike.get_eq,
      hreads.answersAlike.defaultServer_eq⟩

/-! ## What a target lists -/

/-- Where no call fails, a backend lists these credentials. -/
def Shows (b : Backend) (w : World) (ds : List Credential) : Prop :=
  (b.service.list w.restored).answer = .ok ds

theorem shows_keyring_iff : keyring.Shows w ds ↔ KeyringStore.listed w.store = .ok ds := by
  have hlist : (keyring.service.list w.restored).answer = KeyringStore.listed w.store.restored :=
    (KeyringStore.yields_listed (SecretStore.responds_restored w.store)).1
  rw [Shows, hlist, KeyringStore.listed_of_keeps (SecretStore.keeps_restored w.store)]

theorem Shows.of_keepsBeside (h : b.Shows w ds) (hkeeps : w.KeepsBeside w') : b.Shows w' ds :=
  (answersAlike_of_keepsBeside hkeeps b).list_eq.trans h

/-- Whatever fails, listing leaves all texts, and a list that is answered is what is shown. -/
theorem list_cases {r : Except CredentialError (List Credential)}
    (h : b.service.list.Yields w r w') : w.Keeps w' ∧ ∀ ds, r = .ok ds → b.Shows w ds := by
  cases b with
  | file path =>
    obtain ⟨d, hpart, rfl⟩ := h.of_zoom
    obtain ⟨-, rfl⟩ := (FileStore.yields_list_told path w.disk).unique hpart
    exact ⟨.refl w, fun ds hds => hpart.1.trans hds⟩
  | keyring =>
    obtain ⟨s, hpart, rfl⟩ := h.of_zoom
    refine ⟨World.keeps_put .store (KeyringStore.loadAll_cases hpart).1, ?_⟩
    rintro ds rfl
    exact shows_keyring_iff.2 (KeyringStore.listed_of_loadAll hpart)

theorem yields_list_of_reads (h : b.Shows w ds) (hreads : w.RespondsToReads) :
    b.service.list.Yields w (.ok ds) w := by
  cases b with
  | file path =>
    have hlist : (FileStore.list path).Yields w.disk (.ok ds) w.disk := by
      have htold := FileStore.yields_list_told path w.disk
      rwa [← htold.1, show (FileStore.list path w.disk).answer = .ok ds from h] at htold
    exact hlist.zoom
  | keyring =>
    have hload := KeyringStore.yields_listed (SecretStore.responds_restored w.store)
    rw [KeyringStore.listed_of_keeps (SecretStore.keeps_restored w.store),
      shows_keyring_iff.1 h] at hload
    have hlist := KeyringStore.yields_of_respects_asRestored
      (KeyringStore.admitsReads_asRestored hreads.store).loadAll hload
    exact hlist.zoom

/-- A write that answers adds its credential to what is shown, whatever else fails on the way. -/
theorem Shows.set (h : b.Shows w ds) {fresh : String} {details : Details} {c : Credential}
    (hguid : details.effectiveGuid fresh ≠ "")
    (hset : (b.service.set fresh details).Yields w (.ok c) w') :
    details.toCredential fresh = .ok c ∧ (∀ shelf : Shelf, shelf.text w' = shelf.text w) ∧
      ∃ es, b.Shows w' es ∧ es.Perm (ds ++ [c]) := by
  cases b with
  | file path =>
    obtain ⟨d, hpart, rfl⟩ := hset.of_zoom
    obtain ⟨D, hloads, rfl⟩ := FileStore.loads_of_list (d := w.disk) h
    rcases FileStore.leaves_set hloads fresh details with ⟨e, d', hio⟩ | ⟨d', hexact, hafter, -⟩
    · cases (hpart.unique hio).1
    obtain ⟨hc, rfl⟩ := hpart.unique hexact
    rcases D.set_cases fresh details with ⟨e, heq⟩ | ⟨c', hd, hnames, -, heq⟩
    · rw [heq] at hc
      cases hc
    · rw [heq] at hc hafter
      cases hc
      -- a new name comes last
      have hlist := FileStore.yields_list_of_loads hafter
      rw [D.list_put (Details.readsBack_of_toCredential hd), Ledger.put_of_forall_ne hnames] at hlist
      exact ⟨hd, fun shelf => by cases shelf <;> rfl, _, hlist.1, .refl _⟩
  | keyring =>
    obtain ⟨s, hpart, rfl⟩ := hset.of_zoom
    rcases KeyringStore.adds_of_set hguid hpart with ⟨c', hc, hadds⟩ | ⟨⟨e, he⟩, -⟩
    · cases hc
      obtain ⟨es, hes, hperm⟩ := hadds.exists_list ds (shows_keyring_iff.1 h)
      refine ⟨?_, fun shelf => ?_, es, shows_keyring_iff.2 hes, hperm⟩
      · rcases KeyringStore.set_steps hpart with ⟨-, e, he⟩ | ⟨-, d, u, q, -, hd, -, -, hr⟩
        · cases he
        · cases q with
          | ok _ =>
            cases hr
            exact hd
          | error e => cases hr
      · cases shelf with
        | store => exact hadds.keepsLegacy.legacy_eq
        | other => rfl
    · cases he

/-- After copies that answer, all identifiers are shown: those that were, and those of the list. -/
theorem Shows.copyAll (h : b.Shows w ds) (hguids : ∀ c ∈ cs, c.guid ≠ "") {fresh : Nat → String}
    {present : List String} (hpresent : present ⊆ ds.map (·.guid)) {i : Nat}
    {report report' : MigrationReport}
    (hcopies : (Migration.copyAll b.service fresh present i cs report).Yields w (.ok report') w') :
    (∀ shelf : Shelf, shelf.text w' = shelf.text w) ∧
      ∃ es, b.Shows w' es ∧ ds.map (·.guid) ⊆ es.map (·.guid) ∧
        cs.map (·.guid) ⊆ es.map (·.guid) := by
  -- on the credentials that are left; what is shown grows with each of them
  induction cs generalizing w i ds report with
  | nil =>
    obtain ⟨-, rfl⟩ := (yields_pure report w).unique hcopies
    exact ⟨fun _ => rfl, ds, h, List.Subset.refl _, List.nil_subset _⟩
  | cons c cs ih =>
    have hrest : ∀ x ∈ cs, x.guid ≠ "" := fun x hx => hguids x (List.mem_cons_of_mem c hx)
    rcases Migration.copyAll_cons_cases hcopies with ⟨hc, hnext⟩ | ⟨-, hcopied⟩
    · -- it is passed over because it is shown already
      obtain ⟨htext, es, hes, hold, hnew⟩ := ih h hrest hpresent hnext
      exact ⟨htext, es, hes, hold, List.cons_subset.2 ⟨hold (hpresent hc), hnew⟩⟩
    rcases hcopied with ⟨e, -, he⟩ | ⟨w₁, hcopy, hnext⟩
    · cases he
    obtain ⟨q, hset, ⟨d, rfl, -⟩ | ⟨e, -, he⟩⟩ := Migration.copy_cases hcopy
    · have hc := hguids c List.mem_cons_self
      have hguid : (Details.preserving c).effectiveGuid (fresh i) ≠ "" := by
        rwa [show (Details.preserving c).effectiveGuid (fresh i) = c.guid from if_neg hc]
      obtain ⟨hd, htext, ds₁, hds₁, hperm⟩ := h.set hguid hset
      have hmap := hperm.map (·.guid)
      rw [List.map_append, List.map_singleton, Details.guid_of_preserving hc hd] at hmap
      have hgrown : ds.map (·.guid) ⊆ ds₁.map (·.guid) := fun g hg =>
        hmap.mem_iff.2 (List.mem_append_left _ hg)
      obtain ⟨htext', es, hes, hold, hnew⟩ := ih hds₁ hrest (List.Subset.trans hpresent hgrown) hnext
      refine ⟨fun shelf => (htext' shelf).trans (htext shelf), es, hes, List.Subset.trans hgrown hold, ?_⟩
      exact List.cons_subset.2
        ⟨hold (hmap.mem_iff.2 (List.mem_append_right _ (List.mem_singleton_self _))), hnew⟩
    · cases he

/-! ## The steps of a migration -/

/-- A migration has only read until it copies. It then knows the credentials that are there to be
migrated and what the target has shown all along, and the removal is what it tries last. -/
theorem migrate_steps (hcs : LegacyStore.credentialsOf (shelf.text w) = .ok cs) {a : Attempt}
    {r : Except CredentialError MigrationReport}
    (hanswer : (b.migrate shelf a w).answer = r) (hstate : (b.migrate shelf a w).state = w') :
    (w.Keeps w' ∧ ∃ e, r = .error e) ∨
      ∃ ds w₁ q w₂, w.Keeps w₁ ∧ b.Shows w ds ∧
        (Migration.copyAll b.service (fun i => Guid.ofRandom (a.random i)) (ds.map (·.guid)) 0 cs
          {}).Yields w₁ q w₂ ∧
        ((∃ e, q = .error e ∧ w' = w₂ ∧ r = .error e) ∨
          ∃ report u, q = .ok report ∧ shelf.legacy.reset.Yields w₂ u w' ∧ r = .ok report) := by
  have hmeets := World.keeps_meeting w a
  rcases Migration.run_cases (w := w.meeting a) ⟨hanswer, hstate⟩ with
    ⟨e, hlegacy, hr⟩ | ⟨cs', w₁, hlegacy, hrest⟩
  · exact .inl ⟨hmeets.trans (Shelf.keeps_of_legacyList hlegacy).1, e, hr⟩
  obtain ⟨hkeeps, hcs'⟩ := Shelf.keeps_of_legacyList hlegacy
  have hw₁ := hmeets.trans hkeeps
  obtain rfl : cs' = cs := by
    rcases hcs' with heq | ⟨e, he⟩
    · rw [hmeets.text_eq shelf, hcs] at heq
      exact Except.ok.inj heq
    · cases he
  rcases hrest with ⟨e, htarget, hr⟩ | ⟨ds, w₂, htarget, hrest⟩
  · exact .inl ⟨hw₁.trans (list_cases htarget).1, e, hr⟩
  obtain ⟨hkeeps₂, hshows⟩ := list_cases htarget
  have hds : b.Shows w ds :=
    (answersAlike_of_keepsBeside hw₁.keepsBeside b).list_eq.symm.trans (hshows ds rfl)
  rcases hrest with ⟨e, hcopies, hr⟩ | ⟨report, w₃, u, hcopies, hreset, hr⟩
  · exact .inr ⟨ds, w₂, _, w', hw₁.trans hkeeps₂, hds, hcopies, .inl ⟨e, rfl, rfl, hr⟩⟩
  · exact .inr ⟨ds, w₂, _, w₃, hw₁.trans hkeeps₂, hds, hcopies, .inr ⟨report, u, rfl, hreset, hr⟩⟩

/-! ## One more run -/

/-- What is left of the legacy entry, if anything is, are these credentials, and the target
shows all of their identifiers. -/
structure HasAll (b : Backend) (shelf : Shelf) (cs : List Credential) (w : World) : Prop where
  text : shelf.text w = none ∨ LegacyStore.credentialsOf (shelf.text w) = .ok cs
  shows : ∃ ds, b.Shows w ds ∧ cs.map (·.guid) ⊆ ds.map (·.guid)

/-- The legacy credentials that are left. -/
def leftOn (shelf : Shelf) (cs : List Credential) (w : World) : List Credential :=
  if (shelf.text w).isSome then cs else []

theorem HasAll.credentialsOf_eq (h : b.HasAll shelf cs w) :
    LegacyStore.credentialsOf (shelf.text w) = .ok (leftOn shelf cs w) := by
  unfold leftOn
  cases htext : shelf.text w with
  | none => rfl
  | some text =>
    rcases h.text with hnone | hcs
    · rw [htext] at hnone
      cases hnone
    · rw [htext] at hcs
      exact hcs

theorem HasAll.leftOn_subset (h : b.HasAll shelf cs w) {ds : List Credential}
    (hds : b.Shows w ds) : (leftOn shelf cs w).map (·.guid) ⊆ ds.map (·.guid) := by
  obtain ⟨ds', hds', hsubset⟩ := h.shows
  cases hds.symm.trans hds'
  unfold leftOn
  split
  · exact hsubset
  · exact List.nil_subset _

theorem HasAll.of_keepsBeside (h : b.HasAll shelf cs w) (hkeeps : w.KeepsBeside w')
    (htext : shelf.text w' = shelf.text w ∨ shelf.text w' = none) : b.HasAll shelf cs w' := by
  obtain ⟨ds, hds, hsubset⟩ := h.shows
  refine ⟨?_, ds, hds.of_keepsBeside hkeeps, hsubset⟩
  rcases htext with heq | hnone
  · rw [heq]
    exact h.text
  · exact .inl hnone

/-- Credentials that are all present are passed over. -/
theorem copyAll_of_present {σ : Type} {target : Service σ} {fresh : Nat → String}
    {present : List String} (hpresent : cs.map (·.guid) ⊆ present) (i : Nat)
    (report : MigrationReport) :
    Migration.copyAll target fresh present i cs report =
      pure { report with skipped := report.skipped ++ cs.map (·.guid) } := by
  induction cs generalizing i report with
  | nil => rw [Migration.copyAll, List.map_nil, List.append_nil]
  | cons c cs ih =>
    obtain ⟨hc, hrest⟩ := List.cons_subset.1 hpresent
    rw [Migration.copyAll, if_pos (List.contains_iff_mem.2 hc), ih hrest]
    rw [List.map_cons, List.append_assoc, List.singleton_append]

/-- One more run changes nothing but the legacy entry, and if it answers, it has passed over
all that was left of that. -/
theorem HasAll.migrate (h : b.HasAll shelf cs w) (a : Attempt) :
    w.KeepsBeside (b.migrate shelf a w).state ∧
      (shelf.text (b.migrate shelf a w).state = shelf.text w ∨
        shelf.text (b.migrate shelf a w).state = none) ∧
      ∀ report, (b.migrate shelf a w).answer = .ok report →
        report = { skipped := (leftOn shelf cs w).map (·.guid) } := by
  rcases migrate_steps h.credentialsOf_eq (a := a) rfl rfl with
    ⟨hkeeps, e, hr⟩ | ⟨ds, w₁, q, w₂, hkeeps, hds, hcopies, hrest⟩
  · -- a run that only reads has changed nothing at all
    rw [hr]
    exact ⟨hkeeps.keepsBeside, .inl (hkeeps.text_eq shelf), nofun⟩
  rw [copyAll_of_present (h.leftOn_subset hds)] at hcopies
  obtain ⟨rfl, rfl⟩ := (yields_pure _ w₁).unique hcopies
  rcases hrest with ⟨e, he, -⟩ | ⟨report, u, hreport, hreset, hr⟩
  · cases he
  · cases hreport
    obtain ⟨hkept, htext⟩ := Shelf.keepsBeside_of_legacyReset hreset
    rw [hkeeps.text_eq shelf] at htext
    rw [hr]
    exact ⟨hkeeps.keepsBeside.trans hkept, htext, fun report hok => (Except.ok.inj hok).symm⟩

/-- It does answer where no read fails. -/
theorem HasAll.exists_migrate (h : b.HasAll shelf cs w) {a : Attempt}
    (hreads : (w.meeting a).RespondsToReads) :
    ∃ report, (b.migrate shelf a w).answer = .ok report := by
  have hmeets := World.keeps_meeting w a
  obtain ⟨ds, hds, -⟩ := h.shows
  have hlegacy := shelf.yields_legacyList_of_reads hreads
  rw [hmeets.text_eq shelf, h.credentialsOf_eq] at hlegacy
  have htarget := yields_list_of_reads (hds.of_keepsBeside hmeets.keepsBeside) hreads
  have hcopies : (Migration.copyAll b.service (fun i => Guid.ofRandom (a.random i))
      (ds.map (·.guid)) 0 (leftOn shelf cs w) {}).Yields (w.meeting a)
      (.ok { skipped := (leftOn shelf cs w).map (·.guid) }) (w.meeting a) := by
    rw [copyAll_of_present (h.leftOn_subset hds)]
    exact yields_pure _ _
  -- what becomes of the removal does not count
  exact ⟨_, (Migration.yields_run hlegacy htarget hcopies (yields_self _ _)).1⟩

/-! ## Any number of runs -/

/-- A migration that answers has stored all credentials. -/
theorem hasAll_of_migrate (hcs : LegacyStore.credentialsOf (shelf.text w) = .ok cs) {a : Attempt}
    {report : MigrationReport} (hok : (b.migrate shelf a w).answer = .ok report) :
    b.HasAll shelf cs (b.migrate shelf a w).state := by
  rcases migrate_steps hcs hok rfl with ⟨-, e, he⟩ | ⟨ds, w₁, q, w₂, hkeeps, hds, hcopies, hrest⟩
  · cases he
  rcases hrest with ⟨e, -, -, he⟩ | ⟨report', u, rfl, hreset, -⟩
  · cases he
  obtain ⟨htext, es, hes, -, hall⟩ :=
    (hds.of_keepsBeside hkeeps.keepsBeside).copyAll (fun c hc => LegacyStore.guid_ne_empty hcs hc)
      (List.Subset.refl _) hcopies
  obtain ⟨hkept, hreset⟩ := Shelf.keepsBeside_of_legacyReset hreset
  refine ⟨?_, es, hes.of_keepsBeside hkept, hall⟩
  -- the copies have left the text, and the removal leaves it or takes it away
  rcases hreset with heq | hnone
  · rw [heq, htext shelf, hkeeps.text_eq shelf]
    exact .inr hcs
  · exact .inl hnone

/-- One world is reached from another by further runs, whatever fails in them. -/
inductive Rerun (b : Backend) (shelf : Shelf) (w : World) : World → Prop where
  | start : Rerun b shelf w w
  | again {u : World} (h : Rerun b shelf w u) (a : Attempt) :
    Rerun b shelf w (b.migrate shelf a u).state

theorem Rerun.keepsBeside {u : World} (hrerun : b.Rerun shelf w u) (h : b.HasAll shelf cs w) :
    b.HasAll shelf cs u ∧ w.KeepsBeside u ∧
      (shelf.text u = shelf.text w ∨ shelf.text u = none) := by
  -- on the runs: each finds what the one before has left
  induction hrerun with
  | start => exact ⟨h, (World.Keeps.refl w).keepsBeside, .inl rfl⟩
  | @again u _ a ih =>
    obtain ⟨hu, hkept, htext⟩ := ih
    obtain ⟨hkept', htext', -⟩ := hu.migrate a
    refine ⟨hu.of_keepsBeside hkept' htext', hkept.trans hkept', ?_⟩
    rcases htext' with heq | hnone
    · rw [heq]
      exact htext
    · exact .inr hnone

/-- After a migration of some credentials that has left `w`, further runs that have left `u` have
changed nothing, and neither will the next one. -/
structure Harmless (b : Backend) (shelf : Shelf) (cs : List Credential) (w u : World) : Prop where
  /-- The disk and all texts are the same, but for the legacy entry, which stays or goes. -/
  keeps : w.KeepsBeside u
  text : shelf.text u = shelf.text w ∨ shelf.text u = none
  answersAlike : b.AnswersAlike w u
  /-- The next run copies nothing, and passes over all credentials that are there to be migrated. -/
  report_eq : ∀ a report, (b.migrate shelf a u).answer = .ok report →
    report = { migrated := [], skipped := (leftOn shelf cs u).map (·.guid) }
  /-- It fails only if a read does. -/
  exists_report : ∀ a, (u.meeting a).RespondsToReads →
    ∃ report, (b.migrate shelf a u).answer = .ok report
  /-- An entry without an identifier is known by the one that its name determines. -/
  derived : ∀ {text table key j c}, shelf.text u = some text →
    LegacyStore.read? text = some table → (key, j) ∈ table.entries →
    LegacyStore.decodeValue key j = .ok c → c.guid = "" →
    Guid.ofName key ∈ (leftOn shelf cs u).map (·.guid)

/-- After a migration has answered, it may be run any number of times again, whatever calls fail.
Each of these runs copies nothing and passes over what is left of the legacy entry. -/
theorem reruns_harmless (hlegacy : (shelf.legacy.list w.restored).answer = .ok cs) {a : Attempt}
    {report : MigrationReport} (hok : (b.migrate shelf a w).answer = .ok report) {u : World}
    (hu : b.Rerun shelf (b.migrate shelf a w).state u) :
    b.Harmless shelf cs (b.migrate shelf a w).state u := by
  have hcs : LegacyStore.credentialsOf (shelf.text w) = .ok cs := by
    obtain ⟨t, hpart, -⟩ := Yields.of_zoom ⟨hlegacy, rfl⟩
    obtain ⟨-, -, heq | ⟨e, he⟩⟩ := LegacyStore.list_cases hpart
    · rw [heq]
      cases shelf <;> rfl
    · cases he
  obtain ⟨hall, hkept, htext⟩ := hu.keepsBeside (hasAll_of_migrate hcs hok)
  refine ⟨hkept, htext, answersAlike_of_keepsBeside hkept b, fun a => (hall.migrate a).2.2,
    fun a => hall.exists_migrate, ?_⟩
  intro text table key j c htext hread hmem hdecode hguid
  -- the entry is decoded to a credential with the identifier of its name
  have hleft := hall.credentialsOf_eq
  rw [htext, LegacyStore.credentialsOf, LegacyStore.tableOf, hread] at hleft
  obtain ⟨d, hd, hdecoded⟩ := exists_mem_of_mapM_ok hleft hmem
  refine List.mem_map.2 ⟨d, hd, ?_⟩
  cases (LegacyStore.decode_of_decodeValue hdecode).symm.trans hdecoded
  exact if_pos hguid

/-- Two credentials, the second of which has the identifier of its name. -/
def halfNamed : List Credential :=
  [{ guid := "g", name := "a", url := "https://a.b", apiKey := "k" },
    { guid := Guid.ofName "b", name := "b", url := "https://c.d", apiKey := "l" }]

/-- A secret store that has them in the legacy entry, the second one without it. -/
def halfNamedWorld : World where
  store.entries := SortedTable.empty.insert legacyKey
    ("\x7b\"a\":\x7b\"guid\":\"g\",\"url\":\"https://a.b\",\"apiKey\":\"k\"\x7d," ++
      "\"b\":\x7b\"url\":\"https://c.d\",\"apiKey\":\"l\"\x7d\x7d")

/-- The legacy entry cannot be removed. -/
def undeletable : Attempt where
  storeFaults := [{ call := .delete, keyStart := legacyKey, error := .keyring "locked" }]

theorem respondsToReads_undeletable (w : World) : (w.meeting undeletable).RespondsToReads := by
  refine ⟨fun r hr => ?_, fun r hr => (List.not_mem_nil hr).elim⟩
  rw [List.mem_singleton.1 hr]
  exact ⟨nofun, nofun⟩

theorem reruns_harmless_undeletable :
    (keyring.migrate .store undeletable halfNamedWorld).answer =
        .ok { migrated := ["g", Guid.ofName "b"] } ∧
      (keyring.migrate .store undeletable
        (keyring.migrate .store undeletable halfNamedWorld).state).answer =
        .ok { skipped := ["g", Guid.ofName "b"] } ∧
      keyring.Harmless .store halfNamed (keyring.migrate .store undeletable halfNamedWorld).state
        (keyring.migrate .store undeletable
          (keyring.migrate .store undeletable halfNamedWorld).state).state := by
  have hlegacy : (Shelf.store.legacy.list halfNamedWorld.restored).answer = .ok halfNamed := by
    decide +kernel
  have hfirst : (keyring.migrate .store undeletable halfNamedWorld).answer =
        .ok { migrated := ["g", Guid.ofName "b"] } ∧
      (Shelf.store.text (keyring.migrate .store undeletable halfNamedWorld).state).isSome = true := by
    decide +kernel
  refine ⟨hfirst.1, ?_, reruns_harmless hlegacy hfirst.1 (.again .start undeletable)⟩
  -- the text is still there, so both are passed over
  have hharmless := reruns_harmless hlegacy hfirst.1 .start
  obtain ⟨report, hreport⟩ := hharmless.exists_report undeletable (respondsToReads_undeletable _)
  rw [hreport, hharmless.report_eq undeletable report hreport, leftOn, if_pos hfirst.2]
  rfl

end Backend

end CredentialStore
