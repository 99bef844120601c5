import CredentialStore.Migration
import CredentialStore.Proofs.Op

/-!
# How a migration ends

What a finished run of `migrate` has gone through, whatever failed on the way. One that fails could
not list one of the services, or has stopped at a credential that could not be stored.

Main statements: `copy_cases`, `copyAll_cons_cases`, `run_cases` and `run_error_cases`, and the
other way round `yields_run` and `answer_of_stopsAt`.
-/

namespace CredentialStore.Migration

open Op

variable {σ : Type} {source target : Service σ} {w w' : σ}

/-- A copy is a write; if that fails, it tells which credential it was. -/
theorem copy_cases {fresh : String} {c : Credential} {r : Except CredentialError Unit}
    (h : (copy target fresh c).Yields w r w') :
    ∃ q, (target.set fresh (Details.preserving c)).Yields w q w' ∧
      ((∃ d, q = .ok d ∧ r = .ok ()) ∨ ∃ e, q = .error e ∧ r = .error (.migration c.name e)) := by
  obtain ⟨q, w₁, hset, h⟩ := h.of_bind_attempt
  cases q with
  | ok d =>
    obtain ⟨rfl, rfl⟩ := (yields_pure () w₁).unique h
    exact ⟨_, hset, .inl ⟨d, rfl, rfl⟩⟩
  | error e =>
    obtain ⟨rfl, rfl⟩ := (yields_throw _ w₁).unique (h.of_bind (yields_warn _ w₁))
    exact ⟨_, hset, .inr ⟨e, rfl, rfl⟩⟩

section CopyAll

variable {fresh : Nat → String} {present : List String} {i : Nat} {c : Credential}
  {cs : List Credential} {report : MigrationReport} {r : Except CredentialError MigrationReport}

/-- The first credential of a list is passed over, or copied before the others, or it cannot be
copied. -/
theorem copyAll_cons_cases (h : (copyAll target fresh present i (c :: cs) report).Yields w r w') :
    (c.guid ∈ present ∧ (copyAll target fresh present (i + 1) cs
      { report with skipped := report.skipped ++ [c.guid] }).Yields w r w') ∨
    c.guid ∉ present ∧
      ((∃ e, (copy target (fresh i) c).Yields w (.error e) w' ∧ r = .error e) ∨
        ∃ w₁, (copy target (fresh i) c).Yields w (.ok ()) w₁ ∧
          (copyAll target fresh present (i + 1) cs
            { report with migrated := report.migrated ++ [c.guid] }).Yields w₁ r w') := by
  rw [copyAll] at h
  by_cases hpresent : c.guid ∈ present
  · rw [if_pos (List.contains_iff_mem.2 hpresent)] at h
    exact .inl ⟨hpresent, h⟩
  · rw [if_neg (mt List.contains_iff_mem.1 hpresent)] at h
    refine .inr ⟨hpresent, ?_⟩
    rcases h.bind_cases with ⟨e, hcopy, rfl⟩ | ⟨u, w₁, hcopy, h⟩
    · exact .inl ⟨e, hcopy, rfl⟩
    · exact .inr ⟨w₁, hcopy, h⟩

end CopyAll

/-- A migration lists both services and copies what is not present; where all of that succeeds, it
removes the first one and answers, whatever becomes of the removal. -/
theorem run_cases {fresh : Nat → String} {r : Except CredentialError MigrationReport}
    (h : (run source target fresh).Yields w r w') :
    (∃ e, source.list.Yields w (.error e) w' ∧ r = .error e) ∨
    ∃ cs w₁, source.list.Yields w (.ok cs) w₁ ∧
      ((∃ e, target.list.Yields w₁ (.error e) w' ∧ r = .error e) ∨
      ∃ ds w₂, target.list.Yields w₁ (.ok ds) w₂ ∧
        ((∃ e, (copyAll target fresh (ds.map (·.guid)) 0 cs {}).Yields w₂ (.error e) w' ∧
          r = .error e) ∨
        ∃ report w₃ q,
          (copyAll target fresh (ds.map (·.guid)) 0 cs {}).Yields w₂ (.ok report) w₃ ∧
          source.reset.Yields w₃ q w' ∧ r = .ok report)) := by
  rcases h.bind_cases with hfailed | ⟨cs, w₁, hsource, h⟩
  · exact .inl hfailed
  refine .inr ⟨cs, w₁, hsource, ?_⟩
  rcases h.bind_cases with hfailed | ⟨ds, w₂, htarget, h⟩
  · exact .inl hfailed
  refine .inr ⟨ds, w₂, htarget, ?_⟩
  rcases h.bind_cases with hfailed | ⟨report, w₃, hcopies, h⟩
  · exact .inl hfailed
  -- the source is emptied at last, and the answer is the same if that fails
  obtain ⟨q, w₄, hreset, h⟩ := h.of_bind_attempt
  refine .inr ⟨report, w₃, q, hcopies, ?_⟩
  cases q with
  | ok outcome =>
    obtain ⟨rfl, rfl⟩ := (yields_pure report w₄).unique h
    exact ⟨hreset, rfl⟩
  | error e =>
    obtain ⟨rfl, rfl⟩ := (yields_pure report w₄).unique (h.of_bind (yields_warn _ w₄))
    exact ⟨hreset, rfl⟩

/-- Where both lists and all copies answer, so does the migration, whatever the removal does. -/
theorem yields_run {fresh : Nat → String} {w₁ w₂ w₃ : σ} {cs ds : List Credential}
    {report : MigrationReport} {q : Except CredentialError ResetOutcome}
    (hsource : source.list.Yields w (.ok cs) w₁) (htarget : target.list.Yields w₁ (.ok ds) w₂)
    (hcopies : (copyAll target fresh (ds.map (·.guid)) 0 cs {}).Yields w₂ (.ok report) w₃)
    (hreset : source.reset.Yields w₃ q w') :
    (run source target fresh).Yields w (.ok report) w' := by
  refine hsource.bind (htarget.bind (hcopies.bind (hreset.attempt.bind ?_)))
  cases q with
  | ok outcome => exact yields_pure report w'
  | error e => exact (yields_warn _ w').bind (yields_pure report w')

/-! ## Where a migration stops -/

/-- A migration arrives at a credential that is not present: both services have been listed, and
what the list has in front of the credential has been copied or passed over. -/
def ArrivesAt (source target : Service σ) (fresh : Nat → String) (w : σ) (place : Nat)
    (c : Credential) (w' : σ) : Prop :=
  ∃ before after ds w₁ w₂ report,
    source.list.Yields w (.ok (before ++ c :: after)) w₁ ∧ target.list.Yields w₁ (.ok ds) w₂ ∧
      (copyAll target fresh (ds.map (·.guid)) 0 before {}).Yields w₂ (.ok report) w' ∧
      before.length = place ∧ c.guid ∉ ds.map (·.guid)

/-- A migration arrives at a credential that cannot be stored. -/
def StopsAt (source target : Service σ) (fresh : Nat → String) (w : σ) (c : Credential)
    (e : CredentialError) : Prop :=
  ∃ place w', ArrivesAt source target fresh w place c w' ∧
    (target.set (fresh place) (Details.preserving c) w').answer = .error e

section Stops

variable {fresh : Nat → String} {c : Credential} {e : CredentialError} {present : List String}

/-- The copies of two lists are made one after the other. -/
theorem copyAll_append (i : Nat) (before after : List Credential) (report : MigrationReport) :
    copyAll target fresh present i (before ++ after) report =
      copyAll target fresh present i before report >>= fun report' =>
        copyAll target fresh present (i + before.length) after report' := by
  induction before generalizing i report with
  | nil => rfl
  | cons d before ih =>
    rw [List.cons_append, copyAll, copyAll, List.length_cons, Nat.add_comm before.length,
      ← Nat.add_assoc]
    split
    · exact ih (i + 1) _
    · rw [bind_assoc]
      exact congrArg (copy target (fresh i) d >>= ·) (funext fun _ => ih (i + 1) _)

/-- Copies that fail have got to a credential that cannot be stored. -/
theorem exists_stop_of_copyAll {i : Nat} {cs : List Credential} {report : MigrationReport}
    (h : (copyAll target fresh present i cs report).Yields w (.error e) w') :
    ∃ before c after report' w₁ cause, cs = before ++ c :: after ∧ c.guid ∉ present ∧
      (copyAll target fresh present i before report).Yields w (.ok report') w₁ ∧
      (target.set (fresh (i + before.length)) (Details.preserving c) w₁).answer = .error cause ∧
      e = .migration c.name cause := by
  induction cs generalizing i report w with
  | nil => cases h.1
  | cons d cs ih =>
    rcases copyAll_cons_cases h with ⟨hpresent, hrest⟩ | ⟨hnew, ⟨e', hcopy, he⟩ | ⟨w₁, hcopy, hrest⟩⟩
    · -- the first credential is passed over
      obtain ⟨before, c, after, report', w₂, cause, rfl, hc, hbefore, hset, rfl⟩ := ih hrest
      refine ⟨d :: before, c, after, report', w₂, cause, rfl, hc, ?_, ?_, rfl⟩
      · rw [copyAll, if_pos (List.contains_iff_mem.2 hpresent)]
        exact hbefore
      · rwa [List.length_cons, Nat.add_comm before.length, ← Nat.add_assoc]
    · -- it is the one that cannot be stored
      cases he
      obtain ⟨q, hset, ⟨d', -, hr⟩ | ⟨cause, rfl, hr⟩⟩ := copy_cases hcopy
      · cases hr
      · cases hr
        exact ⟨[], d, cs, report, w, cause, rfl, hnew, yields_pure report w, hset.1, rfl⟩
    · -- it is copied
      obtain ⟨before, c, after, report', w₂, cause, rfl, hc, hbefore, hset, rfl⟩ := ih hrest
      refine ⟨d :: before, c, after, report', w₂, cause, rfl, hc, ?_, ?_, rfl⟩
      · rw [copyAll, if_neg (mt List.contains_iff_mem.1 hnew)]
        exact hcopy.bind hbefore
      · rwa [List.length_cons, Nat.add_comm before.length, ← Nat.add_assoc]

/-- A migration that stops answers which credential it was and why. -/
theorem answer_of_stopsAt (h : StopsAt source target fresh w c e) :
    (run source target fresh w).answer = .error (.migration c.name e) := by
  obtain ⟨_, w', ⟨before, after, ds, w₁, w₂, report, hsource, htarget, hcopies, rfl, hnew⟩, hset⟩ := h
  obtain ⟨w₃, hstored⟩ : ∃ w₃, (target.set (fresh before.length) (Details.preserving c)).Yields w'
      (.error e) w₃ := ⟨_, hset, rfl⟩
  have hcopy : (copy target (fresh before.length) c).Yields w' (.error (.migration c.name e)) w₃ :=
    hstored.attempt.bind ((yields_warn _ w₃).bind (yields_throw _ w₃))
  have hall : (copyAll target fresh (ds.map (·.guid)) 0 (before ++ c :: after) {}).Yields w₂
      (.error (.migration c.name e)) w₃ := by
    rw [copyAll_append, Nat.zero_add]
    refine hcopies.bind ?_
    rw [copyAll, if_neg (mt List.contains_iff_mem.1 hnew)]
    exact hcopy.bind_error
  exact (hsource.bind (htarget.bind hall.bind_error)).1

/-- A migration that fails could not list one of the services, or has stopped at a credential. -/
theorem run_error_cases (h : (run source target fresh w).answer = .error e) :
    (source.list w).answer = .error e ∨
    (∃ cs w₁, source.list.Yields w (.ok cs) w₁ ∧ (target.list w₁).answer = .error e) ∨
    ∃ c cause, StopsAt source target fresh w c cause ∧ e = .migration c.name cause := by
  rcases run_cases (r := .error e) ⟨h, rfl⟩ with ⟨e', hsource, he⟩ | ⟨cs, w₁, hsource, hrest⟩
  · cases he
    exact .inl hsource.1
  rcases hrest with ⟨e', htarget, he⟩ | ⟨ds, w₂, htarget, hrest⟩
  · cases he
    exact .inr (.inl ⟨cs, w₁, hsource, htarget.1⟩)
  rcases hrest with ⟨e', hcopies, he⟩ | ⟨report, w₃, q, -, -, he⟩
  · cases he
    obtain ⟨before, c, after, report', w₃, cause, rfl, hnew, hbefore, hset, rfl⟩ :=
      exists_stop_of_copyAll hcopies
    rw [Nat.zero_add] at hset
    exact .inr (.inr ⟨c, cause, ⟨before.length, w₃,
      ⟨before, after, ds, w₁, w₂, report', hsource, htarget, hbefore, rfl, hnew⟩, hset⟩, rfl⟩)
  · cases he

end Stops

end CredentialStore.Migration
