import CredentialStore.Proofs.Disk.Writes
import CredentialStore.Proofs.FileStore.Documents

/-!
# A file that starts anew

Emptying a file does not look at what is in it: where both paths that a save writes to lead to no
directory and there is room, a reset succeeds whatever the bytes are, and whatever comes of the copy
that it tries to make first. The file can be opened afterwards, and from then on it answers as any
file that holds no credentials.

Main statements: `exists_reset` and `answers_eq_of_loads`.
-/

namespace CredentialStore

namespace Disk

variable {d : Disk} {path : String}

theorem pathExists_of_readText {text : String} (h : d.readText path = .ok text) :
    d.pathExists path = true := by
  rw [readText, readBytes] at h
  rw [pathExists]
  -- only what is there can be read
  cases hlookup : d.lookup path with
  | error e =>
    rw [hlookup] at h
    cases h
  | ok found =>
    obtain ⟨place, node⟩ := found
    cases node with
    | none =>
      rw [hlookup] at h
      cases h
    | some node => rfl

theorem pathExists_of_notFound (h : d.readText path = .error .notFound) :
    d.pathExists path = false := by
  rw [readText, readBytes] at h
  rw [pathExists]
  cases hlookup : d.lookup path with
  | error e => rfl
  | ok found =>
    obtain ⟨place, node⟩ := found
    cases node with
    | none => rfl
    | some node =>
      -- what is there fails to be read for other reasons
      rw [hlookup] at h
      cases node with
      | directory => cases h
      | file bytes mode =>
        dsimp only [bind, Except.bind, pure, Except.pure] at h
        split at h <;> cases h

end Disk

namespace FileStore

open Op

variable {path : String} {d d' : Disk} {D : Document}

/-- A document can be saved: neither its path nor the one that is written to first leads to a
directory, and there is room for it. -/
structure CanSave (path : String) (D : Document) (d : Disk) : Prop where
  exists_place : ∃ place, d.LeadsTo path place
  exists_temporary : ∃ place, d.LeadsTo (temporaryPath path) place
  hasRoom : d.HasRoom (Text.utf8 D.write.toList)

/-- A regular file can be written anew if what is written first gets to its path. -/
theorem canSave_of_lookup {place temporary : List String} {bytes : List UInt8} {mode : Nat}
    {node : Option DiskNode} (hfile : d.lookup path = .ok (place, some (.file bytes mode)))
    (htemporary : d.lookup (temporaryPath path) = .ok (temporary, node))
    (hnode : node ≠ some .directory) (hroom : d.HasRoom (Text.utf8 D.write.toList)) :
    CanSave path D d := by
  have hleads := Disk.leadsTo_of_lookup_file hfile
  have hnames : Path.namesDirectory (temporaryPath path) = false :=
    Path.namesDirectory_withExtension hleads.names_file (by decide) (by decide)
  exact ⟨⟨place, hleads⟩, ⟨temporary, (Disk.leadsTo_of_lookup htemporary hnode hnames).1⟩, hroom⟩

/-- Other writes do not stand in the way. -/
theorem CanSave.of_rewrites (h : CanSave path D d) (hd : d.Rewrites d') : CanSave path D d' := by
  obtain ⟨place, hplace⟩ := h.exists_place
  obtain ⟨temporary, htemporary⟩ := h.exists_temporary
  refine ⟨⟨place, hd.leadsTo hplace⟩, ⟨temporary, hd.leadsTo htemporary⟩, fun room hroom => ?_⟩
  rw [hd.capacity_eq] at hroom
  exact h.hasRoom room hroom

theorem exists_save (h : CanSave path D d) :
    ∃ d', (save path D).Yields d (.ok ()) d' ∧ d'.readText path = .ok D.write := by
  obtain ⟨place, hplace⟩ := h.exists_place
  obtain ⟨temporary, htemporary⟩ := h.exists_temporary
  -- the write succeeds, and then the file that was written is moved
  obtain ⟨mode, hwrite⟩ := Disk.writeFile_of_leadsTo htemporary h.hasRoom privateMode false
  have hfound := Disk.lookup_setNode_file htemporary (Text.utf8 D.write.toList) mode
  obtain ⟨d', hrename⟩ := Disk.renameFile_of_leadsTo hfound
    ((Disk.rewrites_setNode htemporary.ne_directory).leadsTo hplace)
  have hfirst := yields_change
    (x := (·.writeFile (temporaryPath path) (Text.utf8 D.write.toList) privateMode false)) hwrite
  refine ⟨d', hfirst.bind (yields_change (r := .ok ()) (by rw [hrename])), ?_⟩
  rw [Disk.readText_of_replace hwrite hrename, String.ofList_toList]

theorem rewrites_backUp (path : String) (d : Disk) : d.Rewrites (backUp path d).state := by
  rw [backUp, bind_state]
  split
  · exact .refl d
  · -- the copy may fail, and what has been written then stays
    have hcopy := Disk.rewrites_copyFile d path (backupPath path d.today)
    dsimp only
    rw [bind_setState]
    cases (d.copyFile path (backupPath path d.today)).1 <;> exact hcopy

/-- Whatever the file holds, a reset empties it. -/
theorem exists_reset (h : CanSave path {} d) :
    ∃ outcome d', (reset path).Yields d (.ok outcome) d' ∧
      d'.readText path = .ok (Document.write {}) := by
  obtain ⟨outcome, hreset⟩ := exists_reset_of_save path d
  obtain ⟨d', hsave, hread⟩ := exists_save (h.of_rewrites (rewrites_backUp path d))
  exact ⟨outcome, d', hreset hsave, hread⟩

/-! ## Opening -/

/-- A file that loads is left as it is. -/
theorem yields_setUp_of_loads (hexists : d.pathExists path = true) (h : Loads path d D) :
    (setUp path).Yields d (.ok ()) d := by
  refine (yields_state d).bind ?_
  rw [if_pos hexists]
  exact (Yields.attempt h).bind (yields_pure () d)

theorem yields_setUp (hread : d.readText path = .ok D.write) (h : D.IsSettled) :
    (setUp path).Yields d (.ok ()) d :=
  yields_setUp_of_loads (Disk.pathExists_of_readText hread) (loads_of_readText hread h)

theorem readText_of_saveEmpty (h : (saveEmpty path).Yields d (.ok ()) d') :
    d'.readText path = .ok (Document.write {}) := by
  obtain ⟨q, d₁, hsave, hend⟩ := h.of_bind_attempt
  cases q with
  | error e => cases ((yields_throw _ d₁).unique hend).1
  | ok u =>
    obtain ⟨-, rfl⟩ := (yields_pure () d₁).unique hend
    rcases save_cases path {} d with ⟨e, d₂, hio⟩ | ⟨d₂, hok, hread⟩
    · cases (hsave.unique hio).1
    · obtain ⟨-, rfl⟩ := hsave.unique hok
      exact hread

/-- Where there was no file, there is one without credentials. -/
theorem readText_of_setUp (hnone : d.readText path = .error .notFound)
    (h : (setUp path).Yields d (.ok ()) d') : d'.readText path = .ok (Document.write {}) := by
  have h := h.of_bind (yields_state d)
  rw [if_neg (by simp [Disk.pathExists_of_notFound hnone])] at h
  dsimp only at h
  -- directories may have to be made first
  split at h
  · exact readText_of_saveEmpty h
  · rename_i directory _
    have h := h.of_bind (yields_state d)
    cases hcreate : d.createDirectories directory with
    | mk r d₁ =>
      rw [hcreate] at h
      have h := h.of_bind (yields_setState d d₁)
      cases r with
      | ok u => exact readText_of_saveEmpty h
      | error e =>
        obtain ⟨u, d₂, hthrow, -⟩ := h.bind_ok
        cases hthrow.1

/-! ## Runs -/

/-- Files that tell the same document answer every run of requests alike, as long as nothing fails
at the disk. -/
theorem answers_eq_of_loads {path' : String} {e : Disk} {requests : List Request}
    (h : Loads path d D) (h' : Loads path' e D)
    (hdisk : ∀ a ∈ (service path).answers requests d, ¬ FailedAtDisk a)
    (hdisk' : ∀ a ∈ (service path').answers requests e, ¬ FailedAtDisk a) :
    (service path).answers requests d = (service path').answers requests e := by
  -- on the requests: both answer as the document and tell the one that it leaves
  induction requests generalizing d e D with
  | nil => rfl
  | cons r rest ih =>
    have hio : ∀ {a : Except CredentialError Reply}, ¬ FailedAtDisk a → ∀ f, a ≠ .error (.io f) := by
      rintro a ha f rfl
      exact ha rfl
    obtain ⟨hanswer, hnext, -⟩ := (leaves_perform h r).of_yields (yields_self _ d)
      (hio (hdisk _ List.mem_cons_self))
    obtain ⟨hanswer', hnext', -⟩ := (leaves_perform h' r).of_yields (yields_self _ e)
      (hio (hdisk' _ List.mem_cons_self))
    rw [Service.answers, Service.answers, ← hanswer, ← hanswer']
    exact congrArg _ (ih hnext hnext' (fun a ha => hdisk a (List.mem_cons_of_mem _ ha))
      fun a ha => hdisk' a (List.mem_cons_of_mem _ ha))

end FileStore

end CredentialStore
