import CredentialStore.Proofs.Disk.Writes
import CredentialStore.Proofs.Op.Corresponds

/-!
# Disks that match

Two disks match by a relation on bytes if they have directories in the same places and files in the
same places, whose bytes are related, and room for all that is written. What is done with one path
on both then ends alike: walks end in the same place, reads answer related bytes, writes of related
bytes leave disks that match.

Main statements: `Matches.locate_eq`, `Matches.lookup_cases`, `Matches.readBytes`,
`Matches.writeFile`, `Matches.renameFile`, `Matches.copyFile` and `Matches.createDirectories`.
-/

namespace CredentialStore

open Op (AnswersBy optionRel_cases)

namespace DiskNode

/-- Both are directories, or files with the same mode and related bytes. -/
inductive Matches (A : List UInt8 → List UInt8 → Prop) : DiskNode → DiskNode → Prop where
  | file {bytes bytes' : List UInt8} (mode : Nat) (h : A bytes bytes') :
    Matches A (.file bytes mode) (.file bytes' mode)
  | directory : Matches A .directory .directory

variable {A : List UInt8 → List UInt8 → Prop} {node node' : Option DiskNode}

theorem isNone_eq_of_rel (h : Option.Rel (Matches A) node node') : node.isNone = node'.isNone := by
  cases h <;> rfl

theorem eq_directory_iff_of_rel (h : Option.Rel (Matches A) node node') :
    node = some .directory ↔ node' = some .directory := by
  cases h with
  | none => rfl
  | some h =>
    cases h with
    | directory => rfl
    | file mode hA => exact ⟨nofun, nofun⟩

end DiskNode

namespace Disk

variable {A : List UInt8 → List UInt8 → Prop} {d d' : Disk} {bytes bytes' : List UInt8}

/-- The disks have the same at each place, but for related bytes of files. Neither gets full. -/
structure Matches (A : List UInt8 → List UInt8 → Prop) (d d' : Disk) : Prop where
  workingDirectory_eq : d.workingDirectory = d'.workingDirectory
  today_eq : d.today = d'.today
  capacity_eq : d.capacity = none
  capacity_eq' : d'.capacity = none
  find?_rel : ∀ key, Option.Rel (DiskNode.Matches A) (d.nodes.find? key) (d'.nodes.find? key)

/-- Both have succeeded or failed alike, and leave disks that match. -/
def EndAlike (A : List UInt8 → List UInt8 → Prop) (x y : Except IoError Unit × Disk) : Prop :=
  x.1 = y.1 ∧ Matches A x.2 y.2

namespace Matches

theorem refl (hA : ∀ bytes, A bytes bytes) (hroom : d.capacity = none) : Matches A d d := by
  refine ⟨rfl, rfl, hroom, hroom, fun key => ?_⟩
  cases d.nodes.find? key with
  | none => exact .none
  | some node =>
    cases node with
    | file bytes mode => exact .some (.file mode (hA bytes))
    | directory => exact .some .directory

variable (h : Matches A d d')

include h

theorem nodeAt_rel (cs : List String) :
    Option.Rel (DiskNode.Matches A) (d.nodeAt cs) (d'.nodeAt cs) := by
  rw [nodeAt, nodeAt]
  split
  · exact .some .directory
  · exact h.find?_rel _

/-- What is at a place of both disks. -/
theorem nodeAt_cases (cs : List String) : (d.nodeAt cs = none ∧ d'.nodeAt cs = none) ∨
    (d.nodeAt cs = some .directory ∧ d'.nodeAt cs = some .directory) ∨
      ∃ bytes bytes' mode, A bytes bytes' ∧ d.nodeAt cs = some (.file bytes mode) ∧
        d'.nodeAt cs = some (.file bytes' mode) := by
  rcases optionRel_cases (h.nodeAt_rel cs) with ⟨hd, hd'⟩ | ⟨node, node', hd, hd', hnode⟩
  · exact .inl ⟨hd, hd'⟩
  · cases hnode with
    | directory => exact .inr (.inl ⟨hd, hd'⟩)
    | file mode hA => exact .inr (.inr ⟨_, _, mode, hA, hd, hd'⟩)

/-! ## Walks -/

/-- Walks look at nothing but directories. -/
theorem walk_eq (above cs : List String) : d.walk above cs = d'.walk above cs := by
  induction cs generalizing above with
  | nil => rfl
  | cons name rest ih =>
    rw [walk, walk]
    dsimp only
    rw [ih]
    -- the name leads to a directory on both disks or on neither
    rcases h.nodeAt_cases (if name = ".." then above.drop 1 else name :: above).reverse with
      ⟨hd, hd'⟩ | ⟨hd, hd'⟩ | ⟨_, _, _, -, hd, hd'⟩ <;> rw [hd, hd']

theorem locate_eq (path : String) : d.locate path = d'.locate path := by
  rw [locate, locate, h.workingDirectory_eq, h.walk_eq]

/-- What is found at a path on both disks. -/
theorem lookup_cases (path : String) :
    (∃ e, d.lookup path = .error e ∧ d'.lookup path = .error e) ∨
      ∃ place node node', d.lookup path = .ok (place, node) ∧ d'.lookup path = .ok (place, node') ∧
        Option.Rel (DiskNode.Matches A) node node' := by
  rw [lookup, lookup, h.locate_eq]
  cases d'.locate path with
  | error e => exact .inl ⟨e, rfl, rfl⟩
  | ok place =>
    dsimp only [bind, Except.bind]
    rcases h.nodeAt_cases place with ⟨hd, hd'⟩ | ⟨hd, hd'⟩ | ⟨bytes, bytes', mode, hA, hd, hd'⟩
    · rw [hd, hd']
      exact .inr ⟨place, _, _, rfl, rfl, .none⟩
    · rw [hd, hd']
      exact .inr ⟨place, _, _, rfl, rfl, .some .directory⟩
    · rw [hd, hd']
      dsimp only
      split
      · exact .inl ⟨_, rfl, rfl⟩
      · exact .inr ⟨place, _, _, rfl, rfl, .some (.file mode hA)⟩

/-! ## Reads -/

theorem pathExists_eq (path : String) : d.pathExists path = d'.pathExists path := by
  rw [pathExists, pathExists]
  rcases h.lookup_cases path with ⟨e, hd, hd'⟩ | ⟨place, node, node', hd, hd', hnode⟩
  · rw [hd, hd']
  · rw [hd, hd']
    cases hnode <;> rfl

theorem readBytes (path : String) : AnswersBy A (d.readBytes path) (d'.readBytes path) := by
  rw [Disk.readBytes, Disk.readBytes]
  rcases h.lookup_cases path with ⟨e, hd, hd'⟩ | ⟨place, node, node', hd, hd', hnode⟩
  · rw [hd, hd']
    exact Eq.refl e
  · rw [hd, hd']
    cases hnode with
    | none => exact Eq.refl IoError.notFound
    | some hnode =>
      cases hnode with
      | directory => exact Eq.refl IoError.isADirectory
      | file mode hA => exact hA

/-! ## Writes -/

theorem setNode {node node' : DiskNode} (hnode : DiskNode.Matches A node node')
    (place : List String) : Matches A (d.setNode place node) (d'.setNode place node') := by
  refine ⟨h.workingDirectory_eq, h.today_eq, h.capacity_eq, h.capacity_eq', fun key => ?_⟩
  rw [Disk.setNode, Disk.setNode, SortedTable.find?_insert, SortedTable.find?_insert]
  split
  · exact .some hnode
  · exact h.find?_rel key

theorem writeFile (hA : A bytes bytes') (path : String) (mode : Nat) (setMode : Bool) :
    EndAlike A (d.writeFile path bytes mode setMode) (d'.writeFile path bytes' mode setMode) := by
  have hput : ∀ (place : List String) (mode : Nat),
      EndAlike A (.ok (), d.setNode place (.file bytes mode))
        (.ok (), d'.setNode place (.file bytes' mode)) :=
    fun place mode => ⟨rfl, h.setNode (.file mode hA) place⟩
  rw [Disk.writeFile, Disk.writeFile]
  rcases h.lookup_cases path with ⟨e, hd, hd'⟩ | ⟨place, node, node', hd, hd', hnode⟩
  · rw [hd, hd']
    exact ⟨rfl, h⟩
  · rw [hd, hd']
    simp only [putFile, h.capacity_eq, h.capacity_eq']
    cases hnode with
    | none =>
      dsimp only
      split
      · exact ⟨rfl, h⟩
      · exact hput place mode
    | some hnode =>
      cases hnode with
      | directory => exact ⟨rfl, h⟩
      | file old hold =>
        -- the mode that a file keeps is the same on both disks
        dsimp only
        split
        · exact ⟨rfl, h⟩
        · exact hput place _

theorem copyFile (source target : String) :
    EndAlike A (d.copyFile source target) (d'.copyFile source target) := by
  rw [Disk.copyFile, Disk.copyFile]
  rcases h.lookup_cases source with ⟨e, hd, hd'⟩ | ⟨place, node, node', hd, hd', hnode⟩
  · rw [hd, hd']
    exact ⟨rfl, h⟩
  · rw [hd, hd']
    cases hnode with
    | none => exact ⟨rfl, h⟩
    | some hnode =>
      cases hnode with
      | directory => exact ⟨rfl, h⟩
      | file mode hA => exact h.writeFile hA target mode true

/-- What has been moved is found at its new path, and nothing at the old one. -/
theorem move {node node' : DiskNode} (hnode : DiskNode.Matches A node node') (old new : String) :
    Matches A { d with nodes := (d.nodes.erase old).insert new node }
      { d' with nodes := (d'.nodes.erase old).insert new node' } := by
  refine ⟨h.workingDirectory_eq, h.today_eq, h.capacity_eq, h.capacity_eq', fun key => ?_⟩
  rw [SortedTable.find?_insert, SortedTable.find?_insert]
  split
  · exact .some hnode
  · rw [SortedTable.find?_erase, SortedTable.find?_erase]
    split
    · exact .none
    · exact h.find?_rel key

theorem renameFile (source target : String) :
    AnswersBy (Matches A) (d.renameFile source target) (d'.renameFile source target) := by
  rw [Disk.renameFile, Disk.renameFile]
  rcases h.lookup_cases source with ⟨e, hd, hd'⟩ | ⟨place, node, node', hd, hd', hnode⟩
  · rw [hd, hd']
    exact Eq.refl e
  rw [hd, hd']
  cases hnode with
  | none => exact Eq.refl IoError.notFound
  | some hnode =>
    cases hnode with
    | directory => exact Eq.refl IoError.isADirectory
    | file mode hA =>
      dsimp only [bind, Except.bind]
      rcases h.lookup_cases target with ⟨e, ht, ht'⟩ | ⟨newPlace, old, old', ht, ht', hold⟩
      · rw [ht, ht']
        exact Eq.refl e
      rw [ht, ht']
      dsimp only
      -- one split for each check of the move
      rw [DiskNode.isNone_eq_of_rel hold]
      split
      · exact Eq.refl _
      · split
        · exact Eq.refl IoError.notADirectory
        · have hdirectory := DiskNode.eq_directory_iff_of_rel hold
          by_cases hold' : old' = some .directory
          · rw [if_pos hold', if_pos (hdirectory.2 hold')]
            exact Eq.refl IoError.isADirectory
          · rw [if_neg hold', if_neg (mt hdirectory.1 hold')]
            exact h.move (.file mode hA) _ _

/-! ## Directories -/

theorem isDirectory_eq (above components : List String) :
    d.isDirectory above components = d'.isDirectory above components := by
  rw [isDirectory, isDirectory, h.walk_eq]
  cases d'.walk above components with
  | error e => rfl
  | ok place =>
    have hdirectory := DiskNode.eq_directory_iff_of_rel (h.nodeAt_rel place)
    simp only [hdirectory]

theorem makeDirectory (above components : List String) :
    AnswersBy (Matches A) (d.makeDirectory above components) (d'.makeDirectory above components) := by
  rw [Disk.makeDirectory, Disk.makeDirectory, h.walk_eq]
  cases d'.walk above components with
  | error e => exact Eq.refl e
  | ok place =>
    dsimp only [bind, Except.bind]
    rcases h.nodeAt_cases place with ⟨hd, hd'⟩ | ⟨hd, hd'⟩ | ⟨_, _, _, -, hd, hd'⟩
    · rw [hd, hd']
      exact h.setNode .directory place
    · rw [hd, hd']
      exact Eq.refl IoError.alreadyExists
    · rw [hd, hd']
      exact Eq.refl IoError.alreadyExists

theorem ensureDirectory (above components : List String) :
    EndAlike A (d.ensureDirectory above components) (d'.ensureDirectory above components) := by
  rw [Disk.ensureDirectory, Disk.ensureDirectory, h.isDirectory_eq]
  rcases (h.makeDirectory above components).cases with ⟨e, hd, hd'⟩ | ⟨e, e', hd, hd', hmade⟩
  · rw [hd, hd']
    exact ⟨rfl, h⟩
  · rw [hd, hd']
    exact ⟨rfl, hmade⟩

theorem ensureDirectories (above names : List String) :
    EndAlike A (d.ensureDirectories above names) (d'.ensureDirectories above names) := by
  induction names with
  | nil => exact ⟨rfl, h⟩
  | cons name around ih =>
    have hensure := h.ensureDirectory above (name :: around).reverse
    rw [Disk.ensureDirectories, Disk.ensureDirectories]
    rcases (h.makeDirectory above (name :: around).reverse).cases with
      ⟨e, hd, hd'⟩ | ⟨e, e', hd, hd', -⟩
    · rw [hd, hd']
      cases e with
      | notFound =>
        -- the directories around it come first
        dsimp only
        obtain ⟨hends, hmade⟩ := ih
        revert hends hmade
        generalize d.ensureDirectories above around = x
        generalize d'.ensureDirectories above around = y
        obtain ⟨r, d₁⟩ := x
        obtain ⟨r', d₁'⟩ := y
        rintro rfl hmade
        cases r with
        | ok u => exact hmade.ensureDirectory above _
        | error e => exact ⟨rfl, hmade⟩
      | _ => exact hensure
    · rw [hd, hd']
      exact hensure

theorem createDirectories (path : String) :
    EndAlike A (d.createDirectories path) (d'.createDirectories path) := by
  rw [Disk.createDirectories, Disk.createDirectories, h.workingDirectory_eq]
  split
  · exact ⟨rfl, h⟩
  · exact h.ensureDirectories _ _

end Matches

end Disk

end CredentialStore
