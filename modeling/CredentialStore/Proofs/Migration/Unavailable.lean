import CredentialStore.Proofs.FileStore.Failures
import CredentialStore.Proofs.KeyringStore.Failures
import CredentialStore.Proofs.Migration.Outcome

/-!
# Migrations into a store that becomes unavailable

A migration passes on why it could not store a credential. Where that is because the target could
not be read any more, the error is answered as that of an unavailable store (`status_code`), and yet
it is not told to be one (`is_store_unavailable`). This is the only error of a migration on which
the two do not agree, whatever calls of the secret stores fail: what a file, a keyring or the legacy
entry fails with by itself is never the error of a migration.

Main statements:

* `Migration.kind_of_stopsAt` — a migration stops for what a write of its target fails with;
* `Backend.exists_stop_of_isMigration` — it answers with the error of a migration only where it
  stops;
* `Backend.classedAlike_but_for_stopped` — when the two agree.
-/

namespace CredentialStore

open Op

namespace Migration

/-! ## What a migration fails with -/

variable {σ : Type} {source target : Service σ} {fresh : Nat → String} {w : σ} {c : Credential}
  {e : CredentialError} {P : σ → Prop} {E : CredentialError → Prop}

/-- What a copy fails with is the error of a migration around one of the write. -/
theorem failsAs_copyAll (hset : ∀ fresh details, (target.set fresh details).FailsAs P E)
    (present : List String) (i : Nat) (cs : List Credential) (report : MigrationReport) :
    (copyAll target fresh present i cs report).FailsAs P
      fun e => ∃ name cause, e = .migration name cause ∧ E cause := by
  induction cs generalizing i report with
  | nil => exact .pure report
  | cons d cs ih =>
    rw [copyAll]
    split
    · exact ih _ _
    · refine FailsAs.bind ?_ fun _ => ih _ _
      refine (hset _ _).bind_attempt (fun _ => .pure ()) fun cause hcause => ?_
      exact (FailsAs.warn _).bind fun _ => .throw ⟨d.name, cause, rfl, hcause⟩

/-- What a migration stops for is of a kind that a write of its target fails with. -/
theorem kind_of_stopsAt (hsource : source.list.FailsAs P E) (htarget : target.list.FailsAs P E)
    (hset : ∀ fresh details, (target.set fresh details).FailsAs P E) (hw : P w)
    (h : StopsAt source target fresh w c e) : E e := by
  obtain ⟨place, w', ⟨before, after, ds, w₁, w₂, report, hlist, hlist', hcopies, -⟩, hstop⟩ := h
  have hw₁ := (hsource hw hlist).1
  have hw₂ := (htarget hw₁ hlist').1
  have hw' := (failsAs_copyAll hset _ _ _ _ hw₂ hcopies).1
  exact (hset _ _ hw' ⟨hstop, rfl⟩).2 e rfl

end Migration

/-! ## What backends fail with -/

/-- No call of the secret stores fails with the error of a migration. -/
structure World.FailsDirectly (w : World) : Prop where
  store : w.store.FailsDirectly
  other : w.other.FailsDirectly

/-- As long as no call of the secret stores does, an operation does not fail with the error of a
migration. -/
abbrev World.Direct {α : Type} (x : Op World α) : Prop :=
  x.FailsAs World.FailsDirectly fun e => e.isMigration = false

theorem World.direct_of_part {α : Type} {x : Op SecretStore α} (shelf : Shelf)
    (hx : SecretStore.Direct x) : World.Direct (zoom shelf.part shelf.put x) := by
  cases shelf with
  | store => exact hx.zoom (fun _ hw => hw.store) fun _ _ hw hs => ⟨hs, hw.other⟩
  | other => exact hx.zoom (fun _ hw => hw.other) fun _ _ hw hs => ⟨hw.store, hs⟩

namespace LegacyStore

theorem direct_load : SecretStore.Direct load := by
  refine (SecretStore.direct_retrieve _).bind_attempt (fun text? => ?_) fun e _ => .throw rfl
  cases text? with
  | none => exact .pure _
  | some text =>
    dsimp only
    split
    · exact .pure _
    · exact .throw rfl

theorem direct_list : SecretStore.Direct list := by
  refine direct_load.bind fun table => .ofExcept fun e he => ?_
  obtain ⟨⟨key, j⟩, -, hdecode⟩ := exists_of_mapM_error he
  exact CredentialError.not_isMigration_of_isPlain
    (CredentialError.isPlain_of_isUnreadable (isUnreadable_of_decode hdecode))

end LegacyStore

namespace FileStore

/-- The operation does not fail with the error of a migration. -/
abbrev Direct {α : Type} (x : Op Disk α) : Prop :=
  x.FailsAs (fun _ => True) fun e => e.isMigration = false

theorem direct_save (path : String) (document : Document) : Direct (save path document) := by
  intro d r d' _ h
  refine ⟨trivial, fun e he => ?_⟩
  rcases save_cases path document d with ⟨cause, d₁, hfailed⟩ | ⟨d₁, hsaved, -⟩
  · obtain ⟨rfl, -⟩ := hfailed.unique h
    cases he
    rfl
  · obtain ⟨rfl, -⟩ := hsaved.unique h
    cases he

theorem direct_list (path : String) : Direct (list path) :=
  failsAs_list CredentialError.not_isMigration_of_isPlain path

theorem direct_set (path fresh : String) (details : Details) : Direct (set path fresh details) :=
  failsAs_set CredentialError.not_isMigration_of_isPlain (direct_save path) fresh details

end FileStore

/-- The disk is no part of a secret store. -/
theorem World.direct_of_disk {α : Type} {x : Op Disk α} (hx : FileStore.Direct x) :
    World.Direct (zoom World.disk (fun w d => { w with disk := d }) x) :=
  hx.zoom (fun _ _ => trivial) fun _ _ hw _ => ⟨hw.store, hw.other⟩

theorem Shelf.direct_list (shelf : Shelf) : World.Direct shelf.legacy.list :=
  World.direct_of_part shelf LegacyStore.direct_list

namespace Backend

open CredentialError

variable {b : Backend} {shelf : Shelf} {fresh : Nat → String} {w : World} {c : Credential}
  {e : CredentialError}

theorem direct_list (b : Backend) : World.Direct b.service.list := by
  cases b with
  | file path => exact World.direct_of_disk (FileStore.direct_list path)
  | keyring => exact World.direct_of_part .store KeyringStore.direct_loadAll

theorem direct_set (b : Backend) (fresh : String) (details : Details) :
    World.Direct (b.service.set fresh details) := by
  cases b with
  | file path => exact World.direct_of_disk (FileStore.direct_set path fresh details)
  | keyring => exact World.direct_of_part .store (KeyringStore.direct_set fresh details)

/-! ## How a migration is classed -/

/-- One migration deep there is what the migration stops for. -/
theorem cause_of_stopsAt (hw : w.FailsDirectly)
    (h : Migration.StopsAt shelf.legacy b.service fresh w c e) :
    (CredentialError.migration c.name e).cause = e := by
  have hdirect : e.isMigration = false :=
    Migration.kind_of_stopsAt shelf.direct_list b.direct_list b.direct_set hw h
  exact cause_eq_self hdirect

/-- A migration answers with the error of a migration only where it stops at a credential. -/
theorem exists_stop_of_isMigration (hw : w.FailsDirectly)
    (h : (Migration.run shelf.legacy b.service fresh w).answer = .error e)
    (hmigration : e.isMigration = true) :
    ∃ c cause, Migration.StopsAt shelf.legacy b.service fresh w c cause ∧
      e = .migration c.name cause := by
  -- the other errors are those of the two lists
  rcases Migration.run_error_cases h with hsource | ⟨cs, w₁, hsource, htarget⟩ | hstop
  · have hdirect := (shelf.direct_list hw ⟨hsource, rfl⟩).2 e rfl
    rw [hdirect] at hmigration
    cases hmigration
  · have hw₁ := (shelf.direct_list hw hsource).1
    have hdirect := (b.direct_list hw₁ ⟨htarget, rfl⟩).2 e rfl
    rw [hdirect] at hmigration
    cases hmigration
  · exact hstop

/-- Nothing is stored where nothing can be listed. -/
theorem set_of_list_error (h : (b.service.list w).answer = .error e) (fresh : String)
    (details : Details) : (b.service.set fresh details w).answer = .error e := by
  cases b with
  | file path =>
    have hlist : (FileStore.list path).Yields w.disk (.error e) _ := ⟨h, rfl⟩
    rcases hlist.bind_cases with ⟨e', hload, he⟩ | ⟨document, d, -, hpure⟩
    · cases he
      have hset : (FileStore.set path fresh details).Yields w.disk (.error e) _ := hload.bind_error
      exact hset.1
    · cases hpure.1
  | keyring =>
    have hload : KeyringStore.loadAll.Yields w.store (.error e) _ := ⟨h, rfl⟩
    have hset : (KeyringStore.set fresh details).Yields w.store (.error e) _ := hload.bind_error
    exact hset.1

/-- An error is answered as one of an unavailable store exactly if the error behind it, however many
migrations deep, is one, and it is told to be one exactly if it is one itself; so the two agree
unless a migration is around such an error. Whatever calls of the secret stores fail, with errors of
their own, a migration fails with an error on which the two agree unless it has stopped at a
credential because the target had become unavailable. It has if the target can no longer be listed
when it arrives there. -/
theorem classedAlike_but_for_stopped (e : CredentialError) :
    (e.status = 503 ↔ e.cause.isUnavailable = true) ∧
    (e.IsClassedAlike ↔ ¬ (e.isMigration = true ∧ e.cause.isUnavailable = true)) ∧
    (∀ (b : Backend) (shelf : Shelf) (fresh : Nat → String) (w : World), w.FailsDirectly →
      (Migration.run shelf.legacy b.service fresh w).answer = .error e →
      (e.IsClassedAlike ↔ ¬ ∃ c cause,
        Migration.StopsAt shelf.legacy b.service fresh w c cause ∧ cause.isUnavailable = true)) ∧
    ∀ (b : Backend) (shelf : Shelf) (fresh : Nat → String) (w w' : World) (place : Nat)
      (c : Credential), Migration.ArrivesAt shelf.legacy b.service fresh w place c w' →
      (b.service.list w').answer = .error e → e.isUnavailable = true →
      let around : CredentialError := .migration c.name e
      (Migration.run shelf.legacy b.service fresh w).answer = .error around ∧
        around.status = 503 ∧ around.isUnavailable = false := by
  refine ⟨status_eq_iff e, isClassedAlike_iff e, ?_, ?_⟩
  · intro b shelf fresh w hw he
    rw [isClassedAlike_iff]
    refine not_congr ⟨fun ⟨hmigration, hcause⟩ => ?_, fun ⟨c, cause, hstop, hunavailable⟩ => ?_⟩
    · obtain ⟨c, cause, hstop, rfl⟩ := exists_stop_of_isMigration hw he hmigration
      rw [cause_of_stopsAt hw hstop] at hcause
      exact ⟨c, cause, hstop, hcause⟩
    · -- the answer is the error of this stop
      cases he.symm.trans (Migration.answer_of_stopsAt hstop)
      rw [cause_of_stopsAt hw hstop]
      exact ⟨rfl, hunavailable⟩
  · intro b shelf fresh w w' place c harrives hlist hunavailable around
    have hstop : Migration.StopsAt shelf.legacy b.service fresh w c e :=
      ⟨place, w', harrives, set_of_list_error hlist _ _⟩
    have hstatus : e.status = 503 := status_eq_of_isUnavailable hunavailable
    exact ⟨Migration.answer_of_stopsAt hstop, hstatus, rfl⟩

/-- A keyring that is locked for a moment after a migration of two credentials within its secret
store has copied the first one. -/
def lockedMidway : World where
  store := {
    entries := SortedTable.empty.insert KeyringStore.legacyKey
      ("\x7b\"home\": \x7b\"guid\": \"g\", \"url\": \"https://a.b\", \"apiKey\": \"k\"\x7d, " ++
        "\"work\": \x7b\"guid\": \"h\", \"url\": \"https://c.d/\", \"apiKey\": \"l\"\x7d\x7d")
    faults := [⟨.list, KeyringStore.credentialStart, .keyring "locked", 2, some 1⟩] }

theorem arrivesAt_lockedMidway :
    ∃ w', Migration.ArrivesAt Shelf.store.legacy keyring.service (fun _ => "") lockedMidway 1
        { name := "work", url := "https://c.d/", apiKey := "l", guid := "h" } w' ∧
      (keyring.service.list w').answer = .error (.load "locked") := by
  have hsource : (Shelf.store.legacy.list lockedMidway).answer = .ok
      ([{ name := "home", url := "https://a.b", apiKey := "k", guid := "g" }] ++
        [{ name := "work", url := "https://c.d/", apiKey := "l", guid := "h" }]) := by
    decide +kernel
  refine ⟨_, ⟨_, _, [], _, _, { migrated := ["g"] }, ⟨hsource, rfl⟩, ⟨?_, rfl⟩, ⟨?_, rfl⟩, rfl, ?_⟩, ?_⟩
  · decide +kernel
  · decide +kernel
  · exact List.not_mem_nil
  · decide +kernel

/-- The second credential cannot be stored. -/
theorem not_isClassedAlike_lockedMidway :
    let e : CredentialError := .migration "work" (.load "locked")
    (Migration.run Shelf.store.legacy keyring.service (fun _ => "") lockedMidway).answer = .error e ∧
      e.status = 503 ∧ e.isUnavailable = false ∧ ∃ c cause,
        Migration.StopsAt Shelf.store.legacy keyring.service (fun _ => "") lockedMidway c cause ∧
          cause.isUnavailable = true := by
  intro e
  obtain ⟨w', harrives, hlist⟩ := arrivesAt_lockedMidway
  obtain ⟨hanswer, hstatus, htold⟩ :=
    (classedAlike_but_for_stopped (.load "locked")).2.2.2 _ _ _ _ _ _ _ harrives hlist rfl
  have hdirect : lockedMidway.FailsDirectly := ⟨by decide, by decide⟩
  have halike : ¬ e.IsClassedAlike := by decide
  have hstop := mt ((classedAlike_but_for_stopped e).2.2.1 _ _ _ _ hdirect hanswer).2 halike
  exact ⟨hanswer, hstatus, htold, not_not.1 hstop⟩

end Backend

end CredentialStore
