import CredentialStore.Proofs.Migration.Carries
import CredentialStore.Proofs.Migration.Cases

/-!
# Migrations that are tried again

A migration that fails is run again until one answers, and the legacy entry is removed only then.
In between, calls of the secret stores fail in any pattern. A credential is passed over where its
identifier is listed already, so of several credentials with one identifier only the first is ever
copied: what has been copied is what is stored for the first one.

Main statements:

* `Carries.migrate` — an attempt keeps to what is meant, and one that answers lists every
  credential;
* `get_of_retried_iff` — after the attempts, every credential is found exactly where credentials
  that share an identifier are stored alike.
-/

namespace CredentialStore

open Op

/-- What an attempt at a migration meets: which calls of the secret stores fail, and the random
bytes that identifiers are drawn from. -/
structure Attempt where
  storeFaults : List FaultRule := []
  storeRejected : Option String := none
  otherFaults : List FaultRule := []
  otherRejected : Option String := none
  random : Nat → List UInt8 := fun _ => []

/-- The world with the rules of an attempt. -/
def World.meeting (w : World) (a : Attempt) : World where
  disk := w.disk
  store := { w.store with faults := a.storeFaults, rejected := a.storeRejected }
  other := { w.other with faults := a.otherFaults, rejected := a.otherRejected }

namespace Backend

/-- Attempts a migration. -/
def migrate (b : Backend) (shelf : Shelf) (a : Attempt) (w : World) :
    Outcome World MigrationReport :=
  Migration.run shelf.legacy b.service (fun i => Guid.ofRandom (a.random i)) (w.meeting a)

/-- One world is reached from another by attempts that have all failed, none of them at a file. -/
inductive Retried (b : Backend) (shelf : Shelf) : World → World → Prop where
  | start (w : World) : Retried b shelf w w
  | again {w u : World} (h : Retried b shelf w u) (a : Attempt)
      (hfailed : ∃ e, (b.migrate shelf a u).answer = .error e)
      (hfile : ¬ b.FailedAtFile (b.migrate shelf a u).answer) :
      Retried b shelf w (b.migrate shelf a u).state

/-- What is stored for the first credential of a list with an identifier. -/
def firstStored (cs : List Credential) (guid : String) : Option Credential :=
  (cs.find? (·.guid == guid)).bind fun c => ((Details.preserving c).toCredential "").toOption

variable {b : Backend} {shelf : Shelf} {w w' : World} {cs : List Credential}

/-- Which calls are to fail does not count. -/
theorem Carries.meeting {meant : String → Option Credential} (h : b.Carries meant w) (a : Attempt) :
    b.Carries meant (w.meeting a) := by
  cases b with
  | file path => exact h
  | keyring => exact KeyringStore.Carries.of_keeps h ⟨rfl, rfl⟩

theorem firstStored_of_first {c d : Credential} (hguid : c.guid ≠ "")
    (hfirst : cs.find? (·.guid == c.guid) = some c) {fresh : String}
    (hd : (Details.preserving c).toCredential fresh = .ok d) :
    firstStored cs c.guid = some d := by
  rw [firstStored, hfirst, Option.bind_some, Details.toCredential_preserving hguid "" fresh, hd]
  rfl

theorem exists_of_firstStored {guid : String} {d : Credential} (h : firstStored cs guid = some d) :
    ∃ f ∈ cs, f.guid = guid ∧ (Details.preserving f).toCredential "" = .ok d := by
  obtain ⟨f, hfind, hstored⟩ := Option.bind_eq_some_iff.1 h
  have hguid : f.guid = guid := by simpa using List.find?_some hfind
  refine ⟨f, List.mem_of_find?_eq_some hfind, hguid, ?_⟩
  cases hcredential : (Details.preserving f).toCredential "" with
  | ok x =>
    rw [hcredential] at hstored
    cases hstored
    rfl
  | error e =>
    rw [hcredential] at hstored
    cases hstored

/-- What is found under an identifier is what is stored for the first credential with it. -/
theorem Carries.get_first (h : b.Carries (firstStored cs) w) (hguids : ∀ c ∈ cs, c.guid ≠ "")
    {guid : String} (hlists : b.Lists w guid) (fresh : String) :
    ∃ f ∈ cs, f.guid = guid ∧
      (b.service.get guid w.restored).answer = (Details.preserving f).toCredential fresh := by
  obtain ⟨d, hd, hget⟩ := h.get hlists
  obtain ⟨f, hf, hguid, hstored⟩ := exists_of_firstStored hd
  refine ⟨f, hf, hguid, hget.trans ?_⟩
  rw [Details.toCredential_preserving (hguids f hf) fresh "", hstored]

/-- Copying a credential that is meant, or one whose identifier is listed already, keeps to what is
meant. -/
theorem Carries.copy {meant : String → Option Credential} (h : b.Carries meant w) {c : Credential}
    (hguid : c.guid ≠ "") {fresh : String} (hfresh : fresh ≠ "")
    (hmeant : ∀ d, (Details.preserving c).toCredential fresh = .ok d →
      b.Lists w d.guid ∨ meant d.guid = some d)
    {r : Except CredentialError Unit} (hcopy : (Migration.copy b.service fresh c).Yields w r w')
    (hfile : ¬ b.FailedAtFile r) :
    b.Carries meant w' ∧ (∀ shelf : Shelf, shelf.text w' = shelf.text w) ∧
      (r = .ok () → ∀ guid, b.Lists w guid ∨ guid = c.guid → b.Lists w' guid) := by
  obtain ⟨q, hset, ⟨d, rfl, rfl⟩ | ⟨e, rfl, rfl⟩⟩ := Migration.copy_cases hcopy
  · obtain ⟨h', htext, hlists⟩ := h.set hfresh hmeant hset (not_failedAtFile_ok b d)
    obtain ⟨hd, hlists⟩ := hlists d rfl
    rw [Details.guid_of_preserving hguid hd] at hlists
    exact ⟨h', htext, fun _ => hlists⟩
  · have hfile' : ¬ b.FailedAtFile (Except.error e : Except CredentialError Credential) := by
      cases b <;> exact hfile
    obtain ⟨h', htext, -⟩ := h.set hfresh hmeant hset hfile'
    exact ⟨h', htext, fun hr => nomatch hr⟩

/-- Copies what is left of a list: what went before is listed already. -/
theorem copyAll_of_carries (hguids : ∀ c ∈ cs, c.guid ≠ "") {fresh : Nat → String}
    (hfresh : ∀ i, fresh i ≠ "") {present : List String} {done rest : List Credential}
    (hcs : done ++ rest = cs) {i : Nat} {report : MigrationReport}
    (h : b.Carries (firstStored cs) w) (hpresent : ∀ g ∈ present, b.Lists w g)
    (hdone : ∀ c ∈ done, b.Lists w c.guid) {r : Except CredentialError MigrationReport}
    (hcopy : (Migration.copyAll b.service fresh present i rest report).Yields w r w')
    (hfile : ¬ b.FailedAtFile r) :
    b.Carries (firstStored cs) w' ∧ (∀ shelf : Shelf, shelf.text w' = shelf.text w) ∧
      ∀ report, r = .ok report → ∀ c ∈ cs, b.Lists w' c.guid := by
  -- on the credentials that are left; the invariant is that all identifiers which went before are
  -- listed, so that a credential that is stored is the first one with its identifier
  induction rest generalizing w i report done with
  | nil =>
    obtain ⟨-, rfl⟩ := (yields_pure report w).unique hcopy
    rw [List.append_nil] at hcs
    exact ⟨h, fun _ => rfl, fun _ _ => hcs ▸ hdone⟩
  | cons c rest ih =>
    have hcs' : (done ++ [c]) ++ rest = cs := by rw [List.append_assoc, List.singleton_append, hcs]
    have hc : c ∈ cs := hcs ▸ List.mem_append_right done List.mem_cons_self
    rcases Migration.copyAll_cons_cases hcopy with ⟨hskip, hrest⟩ | ⟨-, hcopied⟩
    · refine ih hcs' h hpresent (fun x hx => ?_) hrest
      rcases List.mem_append.1 hx with hx | hx
      · exact hdone x hx
      · rw [List.mem_singleton.1 hx]
        exact hpresent _ hskip
    · -- an identifier that went before is listed, and any other one is first here
      have hmeant : ∀ d, (Details.preserving c).toCredential (fresh i) = .ok d →
          b.Lists w d.guid ∨ firstStored cs d.guid = some d := by
        intro d hd
        rw [Details.guid_of_preserving (hguids c hc) hd]
        by_cases hbefore : ∃ x ∈ done, x.guid = c.guid
        · obtain ⟨x, hx, hguid⟩ := hbefore
          exact .inl (hguid ▸ hdone x hx)
        · refine .inr (firstStored_of_first (hguids c hc) ?_ hd)
          rw [← hcs, List.find?_append, List.find?_eq_none.2 fun x hx => ?_]
          · simp
          · simpa using fun hguid => hbefore ⟨x, hx, hguid⟩
      rcases hcopied with ⟨e, hfirst, rfl⟩ | ⟨w₁, hfirst, hrest⟩
      · have hfile₁ : ¬ b.FailedAtFile (Except.error e : Except CredentialError Unit) := by
          cases b <;> exact hfile
        obtain ⟨h₁, htext, -⟩ := h.copy (hguids c hc) (hfresh i) hmeant hfirst hfile₁
        exact ⟨h₁, htext, fun _ hr => nomatch hr⟩
      · obtain ⟨h₁, htext, hlists⟩ := h.copy (hguids c hc) (hfresh i) hmeant hfirst
          (not_failedAtFile_ok b ())
        -- the copied one is listed now, with all that were
        have hdone₁ : ∀ x ∈ done ++ [c], b.Lists w₁ x.guid := by
          intro x hx
          rcases List.mem_append.1 hx with hx | hx
          · exact hlists rfl _ (.inl (hdone x hx))
          · rw [List.mem_singleton.1 hx]
            exact hlists rfl _ (.inr rfl)
        have hpresent₁ : ∀ g ∈ present, b.Lists w₁ g := fun g hg =>
          hlists rfl g (.inl (hpresent g hg))
        obtain ⟨h₂, htext', hall⟩ := ih hcs' h₁ hpresent₁ hdone₁ hrest
        exact ⟨h₂, fun shelf => (htext' shelf).trans (htext shelf), hall⟩

/-- Listing the legacy credentials changes nothing that counts. -/
theorem legacy_list_cases {meant : String → Option Credential} (h : b.Carries meant w)
    {r : Except CredentialError (List Credential)} (hlist : shelf.legacy.list.Yields w r w') :
    b.Carries meant w' ∧ shelf.text w' = shelf.text w ∧
      (r = LegacyStore.credentialsOf (shelf.text w) ∨ ∃ e, r = .error e) := by
  obtain ⟨t, hpart, rfl⟩ := hlist.of_zoom
  obtain ⟨hkeeps, -, hr⟩ := LegacyStore.list_cases hpart
  refine ⟨h.of_legacy (LegacyStore.spares_of_list hpart), ?_, hr⟩
  rw [Shelf.text, Shelf.part_put, hkeeps.entries_eq, Shelf.text]

/-- An attempt keeps to what is meant. One that fails leaves the legacy entry, and after one that
answers every credential is listed. -/
theorem Carries.migrate (h : b.Carries (firstStored cs) w)
    (hlegacy : LegacyStore.credentialsOf (shelf.text w) = .ok cs) (a : Attempt)
    (hfile : ¬ b.FailedAtFile (b.migrate shelf a w).answer) :
    b.Carries (firstStored cs) (b.migrate shelf a w).state ∧
      ((∃ e, (b.migrate shelf a w).answer = .error e) →
        shelf.text (b.migrate shelf a w).state = shelf.text w) ∧
      ∀ report, (b.migrate shelf a w).answer = .ok report →
        ∀ c ∈ cs, b.Lists (b.migrate shelf a w).state c.guid := by
  have hrun : (Migration.run shelf.legacy b.service fun i => Guid.ofRandom (a.random i)).Yields
      (w.meeting a) (b.migrate shelf a w).answer (b.migrate shelf a w).state := ⟨rfl, rfl⟩
  have hfresh : ∀ i, Guid.ofRandom (a.random i) ≠ "" := fun i => Guid.ofRandom_ne_empty (a.random i)
  have hguids : ∀ c ∈ cs, c.guid ≠ "" := fun c hc => LegacyStore.guid_ne_empty hlegacy hc
  -- the answer and the world afterwards are names from here on
  revert hfile hrun
  generalize (b.migrate shelf a w).answer = r
  generalize (b.migrate shelf a w).state = w'
  intro hfile hrun
  have hmeeting : b.Carries (firstStored cs) (w.meeting a) := h.meeting a
  have htext : shelf.text (w.meeting a) = shelf.text w := by cases shelf <;> rfl
  -- the four ends of a migration; the source is touched at the last one only
  rcases Migration.run_cases hrun with ⟨e, hsource, rfl⟩ | ⟨cs', w₁, hsource, hrest⟩
  · obtain ⟨h₁, htext₁, -⟩ := legacy_list_cases hmeeting hsource
    exact ⟨h₁, fun _ => htext₁.trans htext, fun _ hr => nomatch hr⟩
  obtain ⟨h₁, htext₁, hcs⟩ := legacy_list_cases hmeeting hsource
  -- what was listed is what the text tells
  obtain rfl : cs = cs' := by
    rcases hcs with heq | ⟨e, he⟩
    · rw [htext, hlegacy] at heq
      exact (Except.ok.inj heq).symm
    · cases he
  rcases hrest with ⟨e, htarget, rfl⟩ | ⟨ds, w₂, htarget, hrest⟩
  · obtain ⟨h₂, htext₂, -⟩ := h₁.list htarget
    exact ⟨h₂, fun _ => (htext₂ shelf).trans (htext₁.trans htext), fun _ hr => nomatch hr⟩
  obtain ⟨h₂, htext₂, hpresent⟩ := h₁.list htarget
  have hpresent : ∀ g ∈ ds.map (·.guid), b.Lists w₂ g := by
    intro g hg
    obtain ⟨d, hd, rfl⟩ := List.mem_map.1 hg
    exact hpresent ds rfl d hd
  rcases hrest with ⟨e, hcopies, rfl⟩ | ⟨report, w₃, q, hcopies, hreset, rfl⟩
  · obtain ⟨h₃, htext₃, -⟩ := copyAll_of_carries hguids hfresh (List.nil_append _) h₂ hpresent
      (fun c hc => (List.not_mem_nil hc).elim) hcopies hfile
    refine ⟨h₃, fun _ => ?_, fun _ hr => nomatch hr⟩
    exact (htext₃ shelf).trans ((htext₂ shelf).trans (htext₁.trans htext))
  · obtain ⟨h₃, -, hlists⟩ := copyAll_of_carries hguids hfresh (List.nil_append _) h₂ hpresent
      (fun c hc => (List.not_mem_nil hc).elim) hcopies hfile
    obtain ⟨t, hpart, rfl⟩ := hreset.of_zoom
    have hspares := LegacyStore.spares_of_reset hpart
    refine ⟨h₃.of_legacy hspares, ?_, fun _ _ c hc => ?_⟩
    · rintro ⟨e, he⟩
      cases he
    · exact Lists.of_legacy hspares (hlists report rfl c hc)

/-- So do attempts that have all failed. -/
theorem Retried.carries (hretried : b.Retried shelf w w') (h : b.Carries (firstStored cs) w)
    (hlegacy : LegacyStore.credentialsOf (shelf.text w) = .ok cs) :
    b.Carries (firstStored cs) w' ∧ LegacyStore.credentialsOf (shelf.text w') = .ok cs := by
  -- on the attempts: each one failed, so the text is still there for the next
  induction hretried with
  | start => exact ⟨h, hlegacy⟩
  | again _ a hfailed hfile ih =>
    obtain ⟨hu, hlegacy'⟩ := ih
    obtain ⟨h', htext, -⟩ := hu.migrate hlegacy' a hfile
    rw [htext hfailed]
    exact ⟨h', hlegacy'⟩

/-- A file or a keyring has nothing stored at first, and any number of attempts fail before one
answers. Every legacy credential is then found under its identifier, as it
would be stored, exactly where those that share an identifier would be stored alike. -/
theorem get_of_retried_iff (hempty : b.Holds w.restored {})
    (hlegacy : (shelf.legacy.list w.restored).answer = .ok cs) {u : World}
    (hretried : b.Retried shelf w u) {a : Attempt} {report : MigrationReport}
    (hok : (b.migrate shelf a u).answer = .ok report) (fresh : String) :
    (∀ c ∈ cs, (b.service.get c.guid (b.migrate shelf a u).state.restored).answer =
      (Details.preserving c).toCredential fresh) ↔
    ∀ c ∈ cs, ∀ d ∈ cs, c.guid = d.guid →
      (Details.preserving c).toCredential fresh = (Details.preserving d).toCredential fresh := by
  have hcredentials : LegacyStore.credentialsOf (shelf.text w) = .ok cs := by
    obtain ⟨t, hpart, -⟩ := Yields.of_zoom ⟨hlegacy, rfl⟩
    obtain ⟨-, -, heq | ⟨e, he⟩⟩ := LegacyStore.list_cases hpart
    · rw [heq]
      cases shelf <;> rfl
    · cases he
  have hstart : b.Carries (firstStored cs) w :=
    Holds.carries hempty Ledger.valid_nil fun c hc => (List.not_mem_nil hc).elim
  -- all failed attempts, and then the one that answered
  obtain ⟨hu, hcredentials'⟩ := hretried.carries hstart hcredentials
  have hfile : ¬ b.FailedAtFile (b.migrate shelf a u).answer := by
    rw [hok]
    exact not_failedAtFile_ok b report
  obtain ⟨hafter, -, hlists⟩ := hu.migrate hcredentials' a hfile
  have hguids : ∀ c ∈ cs, c.guid ≠ "" := fun c hc => LegacyStore.guid_ne_empty hcredentials hc
  -- forwards: one identifier is answered with one credential; backwards: what is found is what is
  -- stored for the first credential with the identifier
  constructor
  · intro hget c hc d hd hguid
    rw [← hget c hc, ← hget d hd, hguid]
  · intro halike c hc
    obtain ⟨f, hf, hguid, hget⟩ := hafter.get_first hguids (hlists report hok c hc) fresh
    rw [hget, halike f hf c hc hguid]

/-- Two credentials with one identifier. -/
def sharing : List Credential :=
  [{ guid := "g", name := "a", url := "https://a.b", apiKey := "k" },
    { guid := "g", name := "b", url := "https://c.d", apiKey := "l" }]

/-- A secret store that has them in the legacy entry. -/
def sharingWorld : World where
  store.entries := SortedTable.empty.insert KeyringStore.legacyKey
    ("\x7b\"a\":\x7b\"guid\":\"g\",\"url\":\"https://a.b\",\"apiKey\":\"k\"\x7d," ++
      "\"b\":\x7b\"guid\":\"g\",\"url\":\"https://c.d\",\"apiKey\":\"l\"\x7d\x7d")

/-- Keys can be listed twice and not again. -/
def lockedLater : Attempt where
  storeFaults := [{ call := .list, keyStart := "", error := .keyring "locked", skip := 2 }]

/-- The first attempt copies the first one and fails at the second one, the next attempt passes over
both, and the second one is lost. -/
theorem get_of_retried_sharing :
    let u := (keyring.migrate .store lockedLater sharingWorld).state
    (keyring.migrate .store {} u).answer = .ok { skipped := ["g", "g"] } ∧
      ¬ ∀ c ∈ sharing,
        (keyring.service.get c.guid (keyring.migrate .store {} u).state.restored).answer =
          (Details.preserving c).toCredential "" := by
  intro u
  have hempty : keyring.Holds sharingWorld.restored {} := by
    have hfind : ∀ key, key ≠ KeyringStore.legacyKey →
        sharingWorld.restored.store.entries.find? key = none := fun key hkey =>
      (SortedTable.find?_insert ..).trans (if_neg (Ne.symm hkey))
    exact KeyringStore.holds_nothing (SecretStore.responds_restored _)
      (fun guid => hfind _ (KeyringStore.credentialKey_ne_legacyKey guid))
      (hfind _ (by decide)) (hfind _ (by decide))
  have hlegacy : (Shelf.store.legacy.list sharingWorld.restored).answer = .ok sharing := by
    decide +kernel
  -- the write of the second one cannot list what is stored
  have hfailed : (keyring.migrate .store lockedLater sharingWorld).answer =
      .error (.migration "b" (.load "locked")) := by
    decide +kernel
  have hretried : keyring.Retried .store sharingWorld u :=
    .again (.start sharingWorld) lockedLater ⟨_, hfailed⟩ id
  have hok : (keyring.migrate .store {} u).answer = .ok { skipped := ["g", "g"] } := by
    decide +kernel
  refine ⟨hok, fun hget => ?_⟩
  have halike := (get_of_retried_iff hempty hlegacy hretried hok "").1 hget
  have hdiffer : (Details.preserving (sharing[0])).toCredential "" ≠
      (Details.preserving (sharing[1])).toCredential "" := by
    decide +kernel
  exact hdiffer (halike _ (List.getElem_mem _) _ (List.getElem_mem _) rfl)

end Backend

end CredentialStore
