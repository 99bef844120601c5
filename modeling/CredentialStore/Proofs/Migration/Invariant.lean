import CredentialStore.Proofs.Migration.Cases
import CredentialStore.Proofs.Migration.World

/-!
# What holds of a store at any time

Requests and migrations come in any order, and what a migration finds is any text at all. Whatever
is answered, names and identifiers of the stored credentials stay distinct and the credentials well
formed, and as long as nothing is forced, no two of them sign in to one server with one account.

Main statements:

* `follows_migrate` and `follows_step` — what a migration leaves, and so any step;
* `Stands.step` — one step keeps all of this;
* `valid_of_run` — it holds after every run that starts with nothing stored.
-/

namespace CredentialStore

open Op

/-- A secret store with a legacy text, or with none. -/
def LegacyStore.withTable (table : Option String) (s : SecretStore) : SecretStore :=
  match table with
  | some text => { s with entries := s.entries.insert KeyringStore.legacyKey text }
  | none => { s with entries := s.entries.erase KeyringStore.legacyKey }

theorem LegacyStore.spares_withTable (table : Option String) (s : SecretStore) :
    Spares s (withTable table s) := by
  cases table with
  | none => exact ⟨rfl, fun hkey => by rw [withTable, SortedTable.find?_erase, if_neg hkey],
      fun hs => hs.with_entries _⟩
  | some text =>
    exact ⟨rfl, fun hkey => by rw [withTable, SortedTable.find?_insert, if_neg (Ne.symm hkey)],
      fun hs => hs.with_entries _⟩

/-- A request, or a migration of what is found on a shelf, with the random bytes that the
identifiers of copies are drawn from. -/
inductive Step where
  | request (r : Request)
  | migrate (shelf : Shelf) (table : Option String) (random : Nat → List UInt8)

namespace Step

/-- Whether a step is a forced write. -/
def IsForced : Step → Prop
  | .request r => r.IsForced
  | .migrate _ _ _ => False

/-- A forced write draws an identifier that none of the stored credentials has. -/
def DrawsUnused (stored : List Credential) : Step → Prop
  | .request r => r.DrawsUnused stored
  | .migrate _ _ _ => True

end Step

namespace Backend

/-- Takes a step. -/
def step (b : Backend) : Step → Op World Unit
  | .request r => discard (b.service.perform r)
  | .migrate shelf table random => do
    let w ← Op.state
    Op.setState (shelf.put w (LegacyStore.withTable table (shelf.part w)))
    discard (Migration.run shelf.legacy b.service fun i => Guid.ofRandom (random i))

/-- What is left after a run of steps. -/
def run (b : Backend) : List Step → World → World
  | [], w => w
  | x :: rest, w => b.run rest (b.step x w).state

/-- No step of a run fails at the disk, and no forced write draws the identifier of a credential
that is stored then. -/
def Undisturbed (b : Backend) : List Step → World → Prop
  | [], _ => True
  | x :: rest, w =>
    ¬ FailedAtDisk (b.step x w).answer ∧
      (∀ stored, (b.service.list w).answer = .ok stored → x.DrawsUnused stored) ∧
      b.Undisturbed rest (b.step x w).state

/-! ## What a migration adds -/

section Migrations

variable {b : Backend} {w w' : World} {l : Ledger}

theorem follows_copy (h : b.Holds w l) (hv : Ledger.Valid l.credentials) {fresh : String}
    (hfresh : fresh ≠ "") {c : Credential} {r : Except CredentialError Unit}
    (hcopy : (Migration.copy b.service fresh c).Yields w r w') :
    FailedAtDisk r ∨ ∃ l', b.Holds w' l' ∧ l.Grows l' := by
  obtain ⟨q, hset, hr⟩ := Migration.copy_cases hcopy
  rcases follows_set h hv hset with hdisk | ⟨-, hafter⟩
  · obtain ⟨d, rfl, -⟩ | ⟨e, rfl, rfl⟩ := hr
    · exact hdisk.elim
    · exact .inl hdisk
  · exact .inr ⟨_, hafter, .set .refl hfresh _⟩

theorem follows_copyAll {fresh : Nat → String} (hfresh : ∀ i, fresh i ≠ "")
    {present : List String} {i : Nat} {cs : List Credential} {report : MigrationReport}
    {r : Except CredentialError MigrationReport} (h : b.Holds w l)
    (hv : Ledger.Valid l.credentials)
    (hcopy : (Migration.copyAll b.service fresh present i cs report).Yields w r w') :
    FailedAtDisk r ∨ ∃ l', b.Holds w' l' ∧ l.Grows l' := by
  -- on the credentials that are left; what is held grows with each copy
  induction cs generalizing w l i report with
  | nil =>
    obtain ⟨-, rfl⟩ := (yields_pure report w).unique hcopy
    exact .inr ⟨l, h, .refl⟩
  | cons c cs ih =>
    rcases Migration.copyAll_cons_cases hcopy with ⟨-, hrest⟩ | ⟨-, hcopied⟩
    · exact ih h hv hrest
    · rcases hcopied with ⟨e, hfirst, rfl⟩ | ⟨w₁, hfirst, hrest⟩
      · exact follows_copy h hv (hfresh i) hfirst
      · obtain ⟨l₁, h₁, hgrows⟩ := (follows_copy h hv (hfresh i) hfirst).resolve_left id
        rcases ih h₁ (hgrows.valid hv) hrest with hdisk | ⟨l', h', hgrows'⟩
        · exact .inl hdisk
        · exact .inr ⟨l', h', hgrows.trans hgrows'⟩

/-- After a migration the target holds what it held and what was copied, unless it fails at the
disk. -/
theorem follows_migrate (h : b.Holds w l) (hv : Ledger.Valid l.credentials) {shelf : Shelf}
    {fresh : Nat → String} (hfresh : ∀ i, fresh i ≠ "") {r : Except CredentialError MigrationReport}
    (hrun : (Migration.run shelf.legacy b.service fresh).Yields w r w') :
    FailedAtDisk r ∨ ∃ l', b.Holds w' l' ∧ l.Grows l' := by
  -- what the source does goes unnoticed, and so does the list of the target
  have hsource : ∀ {w w' r} {l : Ledger}, b.Holds w l → shelf.legacy.list.Yields w r w' →
      b.Holds w' l := by
    intro w w' r l h hlist
    obtain ⟨s, hpart, rfl⟩ := hlist.of_zoom
    exact h.of_legacy (LegacyStore.spares_of_list hpart)
  have hreset : ∀ {w w' r} {l : Ledger}, b.Holds w l → shelf.legacy.reset.Yields w r w' →
      b.Holds w' l := by
    intro w w' r l h hreset
    obtain ⟨s, hpart, rfl⟩ := hreset.of_zoom
    exact h.of_legacy (LegacyStore.spares_of_reset hpart)
  have htarget : ∀ {w w' r}, b.Holds w l → b.service.list.Yields w r w' → b.Holds w' l := by
    intro w w' r hholds hlist
    obtain ⟨cs, hyields, -⟩ := exists_list hholds hv
    obtain ⟨-, rfl⟩ := hyields.unique hlist
    exact hholds
  -- the four ends of a migration, one behind the other
  rcases Migration.run_cases hrun with ⟨e, hlist, -⟩ | ⟨cs, w₁, hlist, hrest⟩
  · exact .inr ⟨l, hsource h hlist, .refl⟩
  have h₁ := hsource h hlist
  rcases hrest with ⟨e, hlist, -⟩ | ⟨ds, w₂, hlist, hrest⟩
  · exact .inr ⟨l, htarget h₁ hlist, .refl⟩
  have h₂ := htarget h₁ hlist
  rcases hrest with ⟨e, hcopies, rfl⟩ | ⟨report, w₃, q, hcopies, hremoved, rfl⟩
  · exact follows_copyAll hfresh h₂ hv hcopies
  · obtain ⟨l', h', hgrows⟩ := (follows_copyAll hfresh h₂ hv hcopies).resolve_left id
    exact .inr ⟨l', hreset h' hremoved, hgrows⟩

end Migrations

/-! ## Steps -/

/-- What a step makes of a ledger: a request is answered, and a migration adds credentials. -/
inductive Takes (readBack : String → String) (l : Ledger) :
    Step → Except CredentialError Unit → Ledger → Prop where
  | request {r : Request} (hdraws : r.DrawsUnused l.credentials) {q : Except CredentialError Reply}
    (hagree : Agree q (l.perform readBack r).1) :
    Takes readBack l (.request r) (q.map fun _ => ()) (l.perform readBack r).2
  | migrate {shelf : Shelf} {table : Option String} {random : Nat → List UInt8}
    {r : Except CredentialError Unit} {l' : Ledger} (hgrows : l.Grows l') :
    Takes readBack l (.migrate shelf table random) r l'

variable {b : Backend} {w w' : World}

/-- After a step the backend holds what the step makes of the ledger, or it failed at the disk. -/
theorem follows_step {l : Ledger} (h : b.Holds w l) (hv : Ledger.Valid l.credentials) {x : Step}
    (hdraws : ∀ stored, (b.service.list w).answer = .ok stored → x.DrawsUnused stored)
    {r : Except CredentialError Unit} (hstep : (b.step x).Yields w r w') :
    FailedAtDisk r ∨ ∃ l', b.Holds w' l' ∧ Takes b.readBack l x r l' := by
  cases x with
  | request request =>
    obtain ⟨q, hperform, rfl⟩ := hstep.of_map
    obtain ⟨cs, hlist, hperm⟩ := exists_list h hv
    -- the identifier is unused in the list, and so it is in the ledger
    have hr := Request.DrawsUnused.perm hperm (hdraws cs hlist.1)
    rw [failedAtDisk_map]
    rcases follows_perform h hv hr hperform with hdisk | ⟨hagree, hafter⟩
    · exact .inl hdisk
    · exact .inr ⟨_, hafter, .request hr hagree⟩
  | migrate shelf table random =>
    -- the text is there before the migration starts
    have hplaced := h.of_legacy (LegacyStore.spares_withTable table (shelf.part w))
    have hrest : (Functor.discard (Migration.run shelf.legacy b.service fun i =>
        Guid.ofRandom (random i))).Yields
          (shelf.put w (LegacyStore.withTable table (shelf.part w))) r w' := by
      rwa [Yields, Backend.step, bind_state, bind_setState] at hstep
    obtain ⟨q, hmigrate, rfl⟩ := hrest.of_map
    rw [failedAtDisk_map]
    rcases follows_migrate hplaced hv (fun i => Guid.ofRandom_ne_empty (random i)) hmigrate with
      hdisk | ⟨l', hafter, hgrows⟩
    · exact .inl hdisk
    · exact .inr ⟨l', hafter, .migrate hgrows⟩

/-- What is stored is valid, and its credentials are apart as long as nothing was forced. -/
def Stands (b : Backend) (unforced : Prop) (w : World) : Prop :=
  ∃ l, b.Holds w l ∧ Ledger.Valid l.credentials ∧ (unforced → Ledger.Apart l.credentials)

namespace Stands

variable {unforced : Prop}

/-- One step keeps what stands, unless it fails at the disk. -/
theorem step (h : b.Stands unforced w) {x : Step}
    (hdraws : ∀ stored, (b.service.list w).answer = .ok stored → x.DrawsUnused stored)
    (hforced : unforced → ¬ x.IsForced) {r : Except CredentialError Unit}
    (hstep : (b.step x).Yields w r w') : FailedAtDisk r ∨ b.Stands unforced w' := by
  obtain ⟨l, hholds, hv, hapart⟩ := h
  rcases follows_step hholds hv hdraws hstep with hdisk | ⟨l', hafter, htakes⟩
  · exact .inl hdisk
  refine .inr ⟨l', hafter, ?_⟩
  cases htakes with
  | request hr => exact ⟨hv.perform b.readBack hr, fun hu => (hapart hu).perform _ (hforced hu)⟩
  | migrate hgrows => exact ⟨hgrows.valid hv, fun hu => hgrows.apart (hapart hu)⟩

/-- So does a run of steps that is not disturbed. -/
theorem run (h : b.Stands unforced w) {steps : List Step} (hrun : b.Undisturbed steps w)
    (hforced : unforced → ∀ x ∈ steps, ¬ x.IsForced) : b.Stands unforced (b.run steps w) := by
  -- on the steps: the first one keeps what stands, and the rest starts with that
  induction steps generalizing w with
  | nil => exact h
  | cons x rest ih =>
    obtain ⟨hdisk, hdraws, hrest⟩ := hrun
    have hafter := (h.step hdraws (fun hu => hforced hu x List.mem_cons_self)
      (yields_self (b.step x) w)).resolve_left hdisk
    exact ih hafter hrest fun hu y hy => hforced hu y (List.mem_cons_of_mem x hy)

end Stands

/-- After every run that starts with nothing stored, the credentials that are listed are well
formed, with distinct names and identifiers; if nothing was forced, no two of them sign in to one
server with one account. -/
theorem valid_of_run {b : Backend} {w : World} (hempty : b.Holds w {}) {steps : List Step}
    (hrun : b.Undisturbed steps w) :
    ∃ cs, (b.service.list (b.run steps w)).answer = .ok cs ∧ Ledger.Valid cs ∧
      ((∀ x ∈ steps, ¬ x.IsForced) → Ledger.Apart cs) := by
  -- with nothing stored all of it stands
  have hstart : b.Stands (∀ x ∈ steps, ¬ x.IsForced) w :=
    ⟨{}, hempty, Ledger.valid_nil, fun _ => List.nodup_nil⟩
  obtain ⟨l, hholds, hv, hapart⟩ := hstart.run hrun id
  obtain ⟨cs, hlist, hperm⟩ := exists_list hholds hv
  exact ⟨cs, hlist.1, hv.perm hperm.symm, fun hu => (hapart hu).perm hperm.symm⟩

/-- A migration of one credential, and a request after it. -/
def migratedOnce : List Step :=
  [.migrate .store
    (some "\x7b\"work\": \x7b\"guid\": \"g\", \"url\": \"https://a.b\", \"apiKey\": \"k\"\x7d\x7d")
    fun _ => [],
    .request .clearDefaultServer]

theorem valid_of_run_migratedOnce :
    keyring.Undisturbed migratedOnce {} ∧
      ∃ cs, (keyring.service.list (keyring.run migratedOnce {})).answer = .ok cs ∧
        Ledger.Valid cs ∧ Ledger.Apart cs := by
  have hempty : keyring.Holds {} {} :=
    KeyringStore.holds_nothing ⟨rfl, rfl⟩ (fun _ => rfl) rfl rfl
  have hrun : keyring.Undisturbed migratedOnce {} :=
    ⟨by decide +kernel, fun _ _ => trivial, by decide +kernel, fun _ _ => trivial, trivial⟩
  obtain ⟨cs, hlist, hv, hapart⟩ := valid_of_run hempty hrun
  refine ⟨hrun, cs, hlist, hv, hapart fun x hx => ?_⟩
  rcases List.mem_cons.1 hx with rfl | hx
  · exact id
  · rw [List.mem_singleton.1 hx]
    exact id

end Backend

end CredentialStore
