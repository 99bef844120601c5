import CredentialStore.Disk.Basic

/-!
# New directories

Making the directories on the way to a file leaves all that is on the disk, also where it fails half
way: directories are made only where there was nothing.

Main statements: `addsDirectories_createDirectories` and `AddsDirectories.file_iff`.
-/

namespace CredentialStore.Disk

variable {d d' : Disk} {place : List String}

/-- The second disk has what the first one has, and directories in some of the places where that has
nothing. -/
structure AddsDirectories (d d' : Disk) : Prop where
  workingDirectory_eq : d'.workingDirectory = d.workingDirectory
  today_eq : d'.today = d.today
  nodeAt_cases : ∀ cs, d'.nodeAt cs = d.nodeAt cs ∨
    d.nodeAt cs = none ∧ d'.nodeAt cs = some .directory

namespace AddsDirectories

theorem refl (d : Disk) : d.AddsDirectories d :=
  ⟨rfl, rfl, fun _ => .inl rfl⟩

theorem trans {d'' : Disk} (h : d.AddsDirectories d') (h' : d'.AddsDirectories d'') :
    d.AddsDirectories d'' := by
  refine ⟨h'.workingDirectory_eq.trans h.workingDirectory_eq, h'.today_eq.trans h.today_eq,
    fun cs => ?_⟩
  rcases h.nodeAt_cases cs with heq | ⟨hnone, hmade⟩
  · rw [← heq]
    exact h'.nodeAt_cases cs
  · -- what has been made stays
    rcases h'.nodeAt_cases cs with heq | ⟨hnone', -⟩
    · exact .inr ⟨hnone, heq.trans hmade⟩
    · cases hmade.symm.trans hnone'

/-- The files are those that were there. -/
theorem file_iff (h : d.AddsDirectories d') {bytes : List UInt8} {mode : Nat} :
    d'.nodeAt place = some (.file bytes mode) ↔ d.nodeAt place = some (.file bytes mode) := by
  rcases h.nodeAt_cases place with heq | ⟨hnone, hmade⟩
  · rw [heq]
  · rw [hnone, hmade]
    exact ⟨nofun, nofun⟩

end AddsDirectories

theorem addsDirectories_setNode (h : d.nodeAt place = none) :
    d.AddsDirectories (d.setNode place .directory) := by
  refine ⟨rfl, rfl, fun cs => ?_⟩
  rw [nodeAt, nodeAt, setNode, SortedTable.find?_insert]
  by_cases hempty : cs.isEmpty = true
  · rw [if_pos hempty, if_pos hempty]
    exact .inl rfl
  rw [if_neg hempty, if_neg hempty]
  split
  · rename_i hkey
    -- the place that was empty is the only one that changes
    rw [nodeAt] at h
    split at h
    · cases h
    · exact .inr ⟨hkey ▸ h, rfl⟩
  · exact .inl rfl

theorem addsDirectories_ensureDirectory (d : Disk) (above components : List String) :
    d.AddsDirectories (d.ensureDirectory above components).2 := by
  rw [ensureDirectory, makeDirectory]
  cases d.walk above components with
  | error e => exact .refl d
  | ok place =>
    dsimp only [bind, Except.bind]
    cases hnode : d.nodeAt place with
    | none => exact addsDirectories_setNode hnode
    | some node => exact .refl d

theorem addsDirectories_ensureDirectories (d : Disk) (above names : List String) :
    d.AddsDirectories (d.ensureDirectories above names).2 := by
  -- on the names, from the last one outwards
  induction names with
  | nil => exact .refl d
  | cons name around ih =>
    have hensure := addsDirectories_ensureDirectory d above (name :: around).reverse
    rw [ensureDirectories]
    split
    · -- the directories around it come first, and may fail
      revert ih
      generalize d.ensureDirectories above around = outer
      obtain ⟨r, d₁⟩ := outer
      intro hadds
      cases r with
      | ok u => exact hadds.trans (addsDirectories_ensureDirectory d₁ above _)
      | error e => exact hadds
    · exact hensure

/-- Making the directories of a path leaves all that is there, also where it fails. -/
theorem addsDirectories_createDirectories (d : Disk) (path : String) :
    d.AddsDirectories (d.createDirectories path).2 := by
  rw [createDirectories]
  split
  · exact .refl d
  · exact addsDirectories_ensureDirectories d _ _

end CredentialStore.Disk
