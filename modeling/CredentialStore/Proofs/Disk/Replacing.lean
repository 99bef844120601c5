import CredentialStore.Proofs.Disk.Neighbours

/-!
# A file that takes the place of another

A file is replaced in two steps: the new bytes are written to a path of another name, and what
stands there is moved. Where the second path leads does not depend on the first step, so it can be
told from the disk alone how far the replacement gets and what it leaves: a file that stands where
the bytes are written first is cut, keeps its own permission bits and is moved away with them.

Main statements:

* `replacing_of_steps` — what the two steps leave, whichever of them fails;
* `Replacing.onlyAt` — nothing but the ends of the two paths changes;
* `Replacing.file_of_not_overwrites` and `Replacing.exists_overwritten` — when a file is lost.
-/

namespace CredentialStore.Disk

variable {d d' : Disk} {path temporary target : String} {place : List String}
  {bytes : List UInt8} {mode : Nat}

/-! ## Paths on a disk that was written to -/

theorem Rewrites.leadsTo_iff (h : d.Rewrites d') : d'.LeadsTo path place ↔ d.LeadsTo path place := by
  refine ⟨fun hleads => ⟨h.locate_eq_ok_iff.1 hleads.locate_eq, ?_, hleads.names_file⟩, h.leadsTo⟩
  exact mt (h.directory_iff place).2 hleads.ne_directory

theorem LeadsTo.unique {place' : List String} (h : d.LeadsTo path place)
    (h' : d.LeadsTo path place') : place = place' :=
  Except.ok.inj (h.locate_eq.symm.trans h'.locate_eq)

/-- The path leads to the place. -/
def EndsAt (d : Disk) (path : String) (place : List String) : Prop :=
  ∃ place', d.locate path = .ok place' ∧ keyOf place' = keyOf place

theorem Rewrites.endsAt_iff (h : d.Rewrites d') : d'.EndsAt path place ↔ d.EndsAt path place :=
  exists_congr fun _ => and_congr_left fun _ => h.locate_eq_ok_iff

theorem Apart.not_endsAt {other : String} (h : Apart path other) (hplace : d.locate path = .ok place) :
    ¬ d.EndsAt other place :=
  fun ⟨_, hother, hkey⟩ => h hplace hother hkey.symm

/-- What stands at a place depends on the key alone. -/
theorem nodeAt_congr {place' : List String} (h : d.nodeAt place ≠ some .directory)
    (h' : d.nodeAt place' ≠ some .directory) (hkey : keyOf place = keyOf place') :
    d.nodeAt place = d.nodeAt place' := by
  rw [(nodeAt_of_ne_directory h).2, (nodeAt_of_ne_directory h').2, hkey]

/-! ## The first step -/

/-- As many of the bytes as the disk has room for. -/
def fitting (d : Disk) (bytes : List UInt8) : List UInt8 :=
  match d.capacity with
  | none => bytes
  | some room => bytes.take room

/-- The permission bits of a file after a write that does not set them: a file that is there keeps
its own. -/
def modeAfter (d : Disk) (place : List String) (mode : Nat) : Nat :=
  match d.nodeAt place with
  | some (.file _ old) => old
  | _ => mode

theorem fitting_of_hasRoom (h : d.HasRoom bytes) : d.fitting bytes = bytes := by
  rw [fitting]
  split
  · rfl
  · rename_i room hroom
    exact List.take_of_length_le (h room hroom)

theorem putFile_fst (d : Disk) (place : List String) (bytes : List UInt8) (mode : Nat) :
    (d.putFile place bytes mode).1 = d.setNode place (.file (d.fitting bytes) mode) := by
  rw [putFile, fitting]
  cases d.capacity <;> rfl

theorem putFile_snd_iff (d : Disk) (place : List String) (bytes : List UInt8) (mode : Nat) :
    (d.putFile place bytes mode).2 = true ↔ d.HasRoom bytes := by
  rw [putFile, HasRoom]
  cases d.capacity with
  | none => simp
  | some room =>
    simp only [decide_eq_true_eq, Option.some.injEq]
    exact ⟨fun hle room' hroom => hroom ▸ hle, fun h => h room rfl⟩

theorem Rewrites.fitting_eq (h : d.Rewrites d') (bytes : List UInt8) :
    d'.fitting bytes = d.fitting bytes := by
  rw [fitting, fitting, h.capacity_eq]

theorem Rewrites.hasRoom_iff (h : d.Rewrites d') : d'.HasRoom bytes ↔ d.HasRoom bytes := by
  rw [HasRoom, HasRoom, h.capacity_eq]

/-- A write to a path that leads to no directory puts there what fits. -/
theorem exists_writeFile (h : d.LeadsTo path place) (bytes : List UInt8) (mode : Nat) :
    ∃ r, d.writeFile path bytes mode false =
        (r, d.setNode place (.file (d.fitting bytes) (d.modeAfter place mode))) ∧
      (r = .ok () ↔ d.HasRoom bytes) := by
  have hput : ∀ {r : Except IoError Unit} {m : Nat},
      r = (if (d.putFile place bytes m).2 = true then .ok () else .error .noSpace) →
      (r = .ok () ↔ d.HasRoom bytes) := by
    rintro r m rfl
    rw [← putFile_snd_iff d place bytes m]
    split <;> simp_all
  rw [writeFile, h.lookup_eq, modeAfter]
  cases hnode : d.nodeAt place with
  | none =>
    simp only [h.names_file, Bool.false_eq_true, if_false]
    exact ⟨_, congrArg (Prod.mk _) (putFile_fst d place bytes mode), hput rfl⟩
  | some node =>
    cases node with
    | directory => exact absurd hnode h.ne_directory
    | file _ old =>
      simp only [h.names_file, Bool.false_eq_true, if_false]
      exact ⟨_, congrArg (Prod.mk _) (putFile_fst d place bytes old), hput rfl⟩

/-- Where a path leads to a directory or nowhere, nothing is written. -/
theorem writeFile_of_forall_not (h : ∀ place, ¬ d.LeadsTo path place) (bytes : List UInt8)
    (mode : Nat) (setMode : Bool) : ∃ e, d.writeFile path bytes mode setMode = (.error e, d) := by
  rw [writeFile]
  split
  · exact ⟨_, rfl⟩
  · exact ⟨_, rfl⟩
  · rename_i place node hdirectory hlookup
    split
    · exact ⟨_, rfl⟩
    · rename_i hnames
      exact absurd (leadsTo_of_lookup hlookup hdirectory (by simpa using hnames)).1 (h place)

/-! ## The second step -/

/-- The disk after a file was moved from one place to another. -/
def moved (d : Disk) (place newPlace : List String) (node : DiskNode) : Disk :=
  { d with nodes := (d.nodes.erase (keyOf place)).insert (keyOf newPlace) node }

theorem nodeAt_moved (place newPlace : List String) (node : DiskNode) (cs : List String) :
    (d.moved place newPlace node).nodeAt cs =
      if cs.isEmpty then some .directory
      else if keyOf newPlace = keyOf cs then some node
      else if keyOf cs = keyOf place then none else d.nodes.find? (keyOf cs) := by
  rw [nodeAt, moved, SortedTable.find?_insert, SortedTable.find?_erase]

/-- Neither the place that is left nor the new one is a directory, before and after. -/
theorem rewrites_moved {newPlace : List String} (h : d.nodeAt place ≠ some .directory)
    (hnew : d.nodeAt newPlace ≠ some .directory) :
    d.Rewrites (d.moved place newPlace (.file bytes mode)) := by
  rw [(nodeAt_of_ne_directory h).2] at h
  rw [(nodeAt_of_ne_directory hnew).2] at hnew
  refine ⟨rfl, rfl, fun cs => ?_⟩
  -- at the new place, at the one that is left, and elsewhere
  rw [nodeAt_moved, nodeAt]
  split
  · exact .rfl
  · split
    · rename_i hkey
      rw [hkey] at hnew
      exact ⟨by simp, fun heq => absurd heq hnew⟩
    · split
      · rename_i hkey
        rw [← hkey] at h
        exact ⟨by simp, fun heq => absurd heq h⟩
      · exact .rfl

/-- What has been written is moved exactly if the other path leads to no directory. -/
theorem renameFile_written (h : d.LeadsTo temporary place) (target : String) (bytes : List UInt8)
    (mode : Nat) :
    (∃ newPlace, d.LeadsTo target newPlace ∧
        (d.setNode place (.file bytes mode)).renameFile temporary target =
          .ok ((d.setNode place (.file bytes mode)).moved place newPlace (.file bytes mode))) ∨
      (∀ newPlace, ¬ d.LeadsTo target newPlace) ∧
        ∃ e, (d.setNode place (.file bytes mode)).renameFile temporary target = .error e := by
  have hsource := lookup_setNode_file h bytes mode
  have hrewrites : d.Rewrites (d.setNode place (.file bytes mode)) :=
    rewrites_setNode h.ne_directory
  -- a move that fails has found no way to the other path; one that is done has found it
  cases hrename : (d.setNode place (.file bytes mode)).renameFile temporary target with
  | error e =>
    refine .inr ⟨fun newPlace hleads => ?_, e, rfl⟩
    obtain ⟨d', hok⟩ := renameFile_of_leadsTo hsource (hrewrites.leadsTo_iff.2 hleads)
    cases hrename.symm.trans hok
  | ok d' =>
    obtain ⟨place', node, newPlace, hsource', -, hleads, rfl⟩ := renameFile_cases hrename
    cases hsource.symm.trans hsource'
    exact .inl ⟨newPlace, hrewrites.leadsTo_iff.1 hleads, rfl⟩

/-! ## Both steps -/

/-- How far a replacement gets, and what it leaves. -/
inductive Replacing (temporary target : String) (bytes : List UInt8) (mode : Nat) (d : Disk) :
    Bool → Disk → Prop where
  | unwritten (h : ∀ place, ¬ d.LeadsTo temporary place) :
    Replacing temporary target bytes mode d false d
  | unmoved {place : List String} (h : d.LeadsTo temporary place)
    (hstop : ¬ (d.HasRoom bytes ∧ ∃ newPlace, d.LeadsTo target newPlace)) :
    Replacing temporary target bytes mode d false
      (d.setNode place (.file (d.fitting bytes) (d.modeAfter place mode)))
  | moved {place newPlace : List String} (h : d.LeadsTo temporary place) (hroom : d.HasRoom bytes)
    (hnew : d.LeadsTo target newPlace) :
    Replacing temporary target bytes mode d true
      ((d.setNode place (.file bytes (d.modeAfter place mode))).moved place newPlace
        (.file bytes (d.modeAfter place mode)))

/-- What the two steps leave, whichever of them fails. -/
theorem replacing_of_steps (d : Disk) (temporary target : String) (bytes : List UInt8) (mode : Nat) :
    (∃ e d', d.writeFile temporary bytes mode false = (.error e, d') ∧
        Replacing temporary target bytes mode d false d') ∨
      ∃ d₁, d.writeFile temporary bytes mode false = (.ok (), d₁) ∧
        ((∃ e, d₁.renameFile temporary target = .error e ∧
            Replacing temporary target bytes mode d false d₁) ∨
          ∃ d', d₁.renameFile temporary target = .ok d' ∧
            Replacing temporary target bytes mode d true d') := by
  by_cases hleads : ∃ place, d.LeadsTo temporary place
  · obtain ⟨place, hleads⟩ := hleads
    obtain ⟨r, hwrite, hr⟩ := exists_writeFile hleads bytes mode
    cases r with
    | error e =>
      refine .inl ⟨e, _, hwrite, .unmoved hleads fun ⟨hroom, _⟩ => ?_⟩
      cases hr.2 hroom
    | ok u =>
      have hroom := hr.1 rfl
      refine .inr ⟨_, hwrite, ?_⟩
      rcases renameFile_written hleads target (d.fitting bytes)
          (d.modeAfter place mode) with ⟨newPlace, hnew, hrename⟩ | ⟨hnone, e, hrename⟩
      · refine .inr ⟨_, hrename, ?_⟩
        rw [fitting_of_hasRoom hroom]
        exact .moved hleads hroom hnew
      · exact .inl ⟨e, hrename, .unmoved hleads fun ⟨_, newPlace, hnew⟩ => hnone newPlace hnew⟩
  · obtain ⟨e, hwrite⟩ := writeFile_of_forall_not (not_exists.1 hleads) bytes mode false
    exact .inl ⟨e, d, hwrite, .unwritten (not_exists.1 hleads)⟩

namespace Replacing

variable {completed : Bool}

theorem rewrites (h : Replacing temporary target bytes mode d completed d') : d.Rewrites d' := by
  cases h with
  | unwritten _ => exact .refl d
  | unmoved hleads _ => exact rewrites_setNode hleads.ne_directory
  | @moved place newPlace hleads _ hnew =>
    have hwrite : d.Rewrites (d.setNode place (.file bytes (d.modeAfter place mode))) :=
      rewrites_setNode hleads.ne_directory
    exact hwrite.trans (rewrites_moved (hwrite.leadsTo hleads).ne_directory
      (hwrite.leadsTo hnew).ne_directory)

/-- A replacement that was not completed has got to the first step at most. -/
theorem onlyAt_temporary (h : Replacing temporary target bytes mode d false d') :
    OnlyAt [temporary] d d' := by
  refine ⟨h.rewrites, fun place' hplace' => ?_⟩
  have htemporary := hplace' temporary (by simp)
  cases h with
  | unwritten _ => rfl
  | unmoved hleads _ =>
    rw [nodeAt_setNode, nodeAt, if_neg (Ne.symm (htemporary _ hleads.locate_eq))]

/-- Nothing but the ends of the two paths changes. -/
theorem onlyAt (h : Replacing temporary target bytes mode d completed d') :
    OnlyAt [temporary, target] d d' := by
  cases completed with
  | false => exact h.onlyAt_temporary.mono (by simp)
  | true =>
    refine ⟨h.rewrites, fun place' hplace' => ?_⟩
    have htemporary := hplace' temporary (by simp)
    have htarget := hplace' target (by simp)
    cases h with
    | moved hleads _ hnew =>
      rw [nodeAt_moved, if_neg (Ne.symm (htarget _ hnew.locate_eq)),
        if_neg (htemporary _ hleads.locate_eq), nodeAt, setNode, SortedTable.find?_insert,
        if_neg (Ne.symm (htemporary _ hleads.locate_eq))]

end Replacing

/-! ## What is lost -/

/-- A file that is not the one that is replaced stands where the bytes are written first. It is
overwritten: with other bytes, or with its own, and then it is moved away all the same. -/
def Overwrites (d : Disk) (temporary target : String) (bytes : List UInt8) : Prop :=
  ∃ place old mode, d.LeadsTo temporary place ∧ d.nodeAt place = some (.file old mode) ∧
    ¬ d.EndsAt target place ∧
    (old ≠ d.fitting bytes ∨ d.HasRoom bytes ∧ ∃ newPlace, d.LeadsTo target newPlace)

namespace Replacing

variable {completed : Bool} {old : List UInt8} {oldMode : Nat}

/-- A file that stands where the bytes are written first and is not the one that is replaced is
still there, if it was not overwritten. -/
theorem file_of_not_overwrites (h : Replacing temporary target bytes mode d completed d')
    (hnot : ¬ d.Overwrites temporary target bytes) (hfile : d.nodeAt place = some (.file old oldMode))
    (htemporary : d.EndsAt temporary place) (htarget : ¬ d.EndsAt target place) :
    d'.nodeAt place = some (.file old oldMode) := by
  obtain ⟨place', hplace', hkey⟩ := htemporary
  have hmeets : ∀ {written}, d.LeadsTo temporary written → place' = written := fun hleads =>
    Except.ok.inj (hplace'.symm.trans hleads.locate_eq)
  have hsame : ∀ {written}, d.LeadsTo temporary written →
      d.nodeAt place' = some (.file old oldMode) := by
    intro written hleads
    rw [nodeAt_congr (hmeets hleads ▸ hleads.ne_directory) (by simp [hfile]) hkey, hfile]
  have htarget' : ¬ d.EndsAt target place' := fun ⟨found, hfound, heq⟩ =>
    htarget ⟨found, hfound, heq.trans hkey⟩
  cases h with
  | unwritten _ => exact hfile
  | unmoved hleads _ =>
    have hold := hsame hleads
    obtain rfl := hmeets hleads
    have hbytes : old = d.fitting bytes := by
      by_contra hne
      exact hnot ⟨place', old, oldMode, hleads, hold, htarget', .inl hne⟩
    have hne : d.nodeAt place ≠ some .directory := by simp [hfile]
    rw [nodeAt_setNode, (nodeAt_of_ne_directory hne).1, if_neg Bool.false_ne_true, if_pos hkey,
      modeAfter, hold, ← hbytes]
  | moved hleads hroom hnew =>
    -- what is moved away is overwritten, whatever its bytes are
    have hold := hsame hleads
    obtain rfl := hmeets hleads
    exact absurd ⟨place', old, oldMode, hleads, hold, htarget', .inr ⟨hroom, _, hnew⟩⟩ hnot

/-- A file that was overwritten is not there any more, or not with its bytes. -/
theorem exists_overwritten (h : Replacing temporary target bytes mode d completed d')
    (hover : d.Overwrites temporary target bytes) :
    ∃ place old oldMode, d.LeadsTo temporary place ∧ d.nodeAt place = some (.file old oldMode) ∧
      ¬ d.EndsAt target place ∧ d'.nodeAt place ≠ some (.file old oldMode) := by
  obtain ⟨place, old, oldMode, hleads, hfile, htarget, hlost⟩ := hover
  refine ⟨place, old, oldMode, hleads, hfile, htarget, fun hkept => ?_⟩
  have hplace := (nodeAt_of_ne_directory hleads.ne_directory).1
  cases h with
  | unwritten hnone => exact hnone place hleads
  | unmoved hleads' hstop =>
    obtain rfl := hleads.unique hleads'
    rw [nodeAt_setNode, hplace, if_neg Bool.false_ne_true, if_pos rfl] at hkept
    cases hkept
    exact hlost.elim (fun hne => hne rfl) hstop
  | moved hleads' hroom hnew =>
    obtain rfl := hleads.unique hleads'
    rw [nodeAt_moved, hplace, if_neg Bool.false_ne_true, if_neg fun hkey =>
      htarget ⟨_, hnew.locate_eq, hkey⟩, if_pos rfl] at hkept
    cases hkept

end Replacing

end CredentialStore.Disk
