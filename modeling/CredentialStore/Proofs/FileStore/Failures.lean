import CredentialStore.Proofs.Credential.Validation
import CredentialStore.Proofs.FileStore.Calls
import CredentialStore.Proofs.FileStore.Recovery
import CredentialStore.Proofs.Op.Failures

/-!
# What a file fails with

An operation on a file fails for what is stored, for what it was asked to store, or because the file
cannot be written: what a save does not fail with, no operation fails with at the disk. On a disk
that has room for any file, and on which neither the path of the file nor the one that is written to
first leads to a directory, every save succeeds. A request changes files at most, so the next one
finds the disk as open as this one did, and nothing fails at the disk in a whole run.

Main statements:

* `failsAs_perform` — a request fails with what a save fails with, or for what is stored or asked;
* `not_failedAtDisk_of_isOpen` — no request of a run fails at an open disk.
-/

namespace CredentialStore.FileStore

open Op

variable {path : String}

/-! ## Operations -/

section Kinds

variable {P : Disk → Prop} {E : CredentialError → Prop}

/-- A copy that fails is reported only, and changes files at most. -/
theorem failsAs_reset (hsave : ∀ D, (save path D).FailsAs P E)
    (hrewrites : ∀ {d d' : Disk}, P d → d.Rewrites d' → P d') : (reset path).FailsAs P E := by
  intro d r t hd h
  have hself := yields_self (save path {}) (backUp path d).state
  obtain ⟨rfl, rfl⟩ := (reset_of_save hself).unique h
  obtain ⟨hleft, hfails⟩ := hsave {} (hrewrites hd (rewrites_backUp path d)) hself
  refine ⟨hleft, fun e he => hfails e ?_⟩
  cases hanswer : (save path {} (backUp path d).state).answer with
  | ok u =>
    rw [hanswer] at he
    cases he
  | error e' =>
    rw [hanswer] at he
    cases he
    rfl

variable (hplain : ∀ {e}, e.isPlain = true → E e)

include hplain

theorem failsAs_load (path : String) : (load path).FailsAs P E := by
  intro d r t hd h
  obtain ⟨rfl, rfl⟩ := (yields_load path d).unique h
  exact ⟨hd, fun e he => hplain (CredentialError.isPlain_of_isUnreadable (isUnreadable_of_told he))⟩

theorem failsAs_list (path : String) : (list path).FailsAs P E :=
  (failsAs_load hplain path).bind fun _ => .pure _

theorem failsAs_get (path guid : String) : (get path guid).FailsAs P E := by
  refine (failsAs_load hplain path).bind fun D => ?_
  split
  · exact .pure _
  · exact .throw (hplain rfl)

variable (hsave : ∀ D, (save path D).FailsAs P E)

include hsave

theorem failsAs_set (fresh : String) (details : Details) :
    (set path fresh details).FailsAs P E := by
  refine (failsAs_load hplain path).bind fun D => ?_
  refine FailsAs.bind (.ofExcept fun e he => hplain (Details.isPlain_of_toCredential he)) fun c => ?_
  refine FailsAs.bind (.ofExcept fun e he => hplain (Credential.isPlain_of_checkAll he)) fun _ => ?_
  split
  · exact .throw (hplain rfl)
  · exact (hsave _).bind fun _ => .pure c

theorem failsAs_forceSet (fresh : String) (details : Details) :
    (forceSet path fresh details).FailsAs P E := by
  refine (failsAs_load hplain path).bind fun D => ?_
  refine FailsAs.bind (.ofExcept fun e he => hplain (Details.isPlain_of_toCredential he)) fun c => ?_
  exact (FailsAs.forM_warn _).bind fun _ => (hsave _).bind fun _ => .pure _

theorem failsAs_delete (guid : String) : (delete path guid).FailsAs P E := by
  refine (failsAs_load hplain path).bind fun D => ?_
  split
  · exact .throw (hplain rfl)
  · exact hsave _

theorem failsAs_setDefaultServer (guid : String) : (setDefaultServer path guid).FailsAs P E := by
  refine (failsAs_load hplain path).bind fun D => ?_
  split
  · exact .throw (hplain rfl)
  · exact hsave _

theorem failsAs_clearDefaultServer : (clearDefaultServer path).FailsAs P E := by
  refine (failsAs_load hplain path).bind fun D => ?_
  split
  · exact hsave _
  · exact .pure ()

/-- A request fails with what a save fails with, or for what is stored or for what it asks. -/
theorem failsAs_perform (hrewrites : ∀ {d d' : Disk}, P d → d.Rewrites d' → P d') (r : Request) :
    ((service path).perform r).FailsAs P E := by
  cases r with
  | list => exact (failsAs_list hplain path).map _
  | get guid => exact (failsAs_get hplain path guid).map _
  | set random a => exact (failsAs_set hplain hsave _ _).map _
  | forceSet random a => exact (failsAs_forceSet hplain hsave _ _).map _
  | delete guid => exact (failsAs_delete hplain hsave guid).map _
  | reset => exact (failsAs_reset hsave hrewrites).map _
  | defaultServer => exact ((failsAs_load hplain path).bind fun _ => .pure _).map _
  | setDefaultServer guid => exact (failsAs_setDefaultServer hplain hsave guid).map _
  | clearDefaultServer => exact (failsAs_clearDefaultServer hplain hsave).map _

end Kinds

/-! ## Open disks -/

/-- The disk has room for any file, and neither the path nor the one that is written to first leads
to a directory. -/
structure IsOpen (path : String) (d : Disk) : Prop where
  exists_place : ∃ place, d.LeadsTo path place
  exists_temporary : ∃ place, d.LeadsTo (temporaryPath path) place
  capacity_eq : d.capacity = none

namespace IsOpen

variable {d d' : Disk}

theorem canSave (h : IsOpen path d) (D : Document) : CanSave path D d := by
  refine ⟨h.exists_place, h.exists_temporary, fun room hroom => ?_⟩
  cases h.capacity_eq.symm.trans hroom

/-- Whatever is written to files, the disk stays open. -/
theorem of_rewrites (h : IsOpen path d) (hd : d.Rewrites d') : IsOpen path d' := by
  obtain ⟨place, hplace⟩ := h.exists_place
  obtain ⟨temporary, htemporary⟩ := h.exists_temporary
  exact ⟨⟨place, hd.leadsTo hplace⟩, ⟨temporary, hd.leadsTo htemporary⟩,
    hd.capacity_eq.trans h.capacity_eq⟩

end IsOpen

/-- A save on an open disk does not fail at all. -/
theorem failsAs_save_of_isOpen (path : String) (D : Document) :
    (save path D).FailsAs (IsOpen path) fun e => e.isPlain = true := by
  intro d r t hd h
  obtain ⟨completed, hreplacing, -⟩ := replacing_of_save h
  obtain ⟨d', hsave, -⟩ := exists_save (hd.canSave D)
  obtain ⟨rfl, -⟩ := hsave.unique h
  exact ⟨hd.of_rewrites hreplacing.rewrites, nofun⟩

/-- On an open disk, no request of a run fails at the disk. -/
theorem not_failedAtDisk_of_isOpen {d : Disk} (h : IsOpen path d) (requests : List Request) :
    ∀ a ∈ (service path).answers requests d, ¬ FailedAtDisk a := by
  -- on the requests: the first one leaves an open disk, and the rest starts from there
  induction requests generalizing d with
  | nil => exact fun a ha => (List.not_mem_nil ha).elim
  | cons r rest ih =>
    obtain ⟨hopen, hfails⟩ :=
      failsAs_perform id (failsAs_save_of_isOpen path) .of_rewrites r h (yields_self _ d)
    intro a ha
    rcases List.mem_cons.1 ha with rfl | ha
    · cases hanswer : ((service path).perform r d).answer with
      | ok reply => exact id
      | error e =>
        show ¬ e.isIo = true
        rw [CredentialError.not_isIo_of_isPlain (hfails e hanswer)]
        exact Bool.false_ne_true
    · exact ih hopen a ha

end CredentialStore.FileStore
