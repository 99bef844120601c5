import CredentialStore.FileStore.Basic
import CredentialStore.Proofs.FileStore.Codec
import CredentialStore.Proofs.Op

/-!
# A saved document is read back

Saving (`save_file`) writes a file of another name and moves it to its place. Both change only what
is at the end of a path, so all that a path passes on the way stays a directory, and the path leads
to the same place afterwards. Main statements: `readText_of_replace` (what was written and moved is
read at the new path) and `save_cases` (saving fails at the disk, or leaves the text of the
document).
-/

namespace CredentialStore

namespace Disk

variable {d d' : Disk} {path : String} {place : List String}

theorem nodeAt_setNode (d : Disk) (place : List String) (node : DiskNode) (cs : List String) :
    (d.setNode place node).nodeAt cs =
      if cs.isEmpty then some .directory
      else if keyOf place = keyOf cs then some node else d.nodes.find? (keyOf cs) := by
  rw [nodeAt, setNode, SortedTable.find?_insert]

theorem nodeAt_of_ne_directory (h : d.nodeAt place ≠ some .directory) :
    place.isEmpty = false ∧ d.nodeAt place = d.nodes.find? (keyOf place) := by
  rw [nodeAt] at h ⊢
  split at h
  · exact absurd rfl h
  · rename_i hplace
    exact ⟨by simpa using hplace, by simp [hplace]⟩

/-! ## Directories stay -/

/-- All directories of the first disk are directories of the second. -/
def KeepsDirectories (d d' : Disk) : Prop :=
  ∀ cs, d.nodeAt cs = some .directory → d'.nodeAt cs = some .directory

/-- A walk passes directories only. -/
theorem walk_of_keepsDirectories (h : d.KeepsDirectories d') {above cs : List String}
    (hwalk : d.walk above cs = .ok place) : d'.walk above cs = .ok place := by
  -- the induction is on the names that are left; the walk branches as it did, since the only thing
  -- it looks at is whether the next name leads to a directory
  induction cs generalizing above with
  | nil => exact hwalk
  | cons name rest ih =>
    rw [walk] at hwalk ⊢
    split at hwalk
    · cases hwalk
    · rename_i hname
      rw [if_neg hname]
      dsimp only at hwalk ⊢
      split at hwalk
      · rename_i hrest
        rw [if_pos hrest]
        exact hwalk
      · rename_i hrest
        rw [if_neg hrest]
        split at hwalk
        · cases hwalk
        · cases hwalk
        · rename_i hdirectory
          rw [h _ hdirectory]
          exact ih hwalk

theorem locate_of_keepsDirectories (h : d.KeepsDirectories d')
    (hworking : d'.workingDirectory = d.workingDirectory) (hlocate : d.locate path = .ok place) :
    d'.locate path = .ok place := by
  rw [locate] at hlocate ⊢
  -- the checks before the walk do not look at the disk
  split at hlocate
  · cases hlocate
  · rename_i hempty
    rw [if_neg hempty]
    split at hlocate
    · cases hlocate
    · rename_i hlong
      rw [if_neg hlong, hworking]
      exact walk_of_keepsDirectories h hlocate

/-- What is put in the place of no directory leaves all directories. -/
theorem keepsDirectories_setNode (h : d.nodeAt place ≠ some .directory) (node : DiskNode) :
    d.KeepsDirectories (d.setNode place node) := by
  intro cs hcs
  obtain ⟨-, hfind⟩ := nodeAt_of_ne_directory h
  -- only the place itself changes, and that was no directory
  rw [nodeAt_setNode]
  split
  · rfl
  · rename_i hempty
    rw [nodeAt, if_neg hempty] at hcs
    split
    · rename_i hkey
      rw [hfind, hkey] at h
      exact absurd hcs h
    · exact hcs

theorem keepsDirectories_erase (h : d.nodeAt place ≠ some .directory) :
    d.KeepsDirectories { d with nodes := d.nodes.erase (keyOf place) } := by
  intro cs hcs
  obtain ⟨-, hfind⟩ := nodeAt_of_ne_directory h
  -- as above: what is removed was no directory
  rw [nodeAt] at hcs ⊢
  split
  · rfl
  · rename_i hempty
    rw [if_neg hempty] at hcs
    dsimp only
    rw [SortedTable.find?_erase]
    split
    · rename_i hkey
      rw [hfind, ← hkey] at h
      exact absurd hcs h
    · exact hcs

theorem KeepsDirectories.trans {d₁ d₂ d₃ : Disk} (h₁ : d₁.KeepsDirectories d₂)
    (h₂ : d₂.KeepsDirectories d₃) : d₁.KeepsDirectories d₃ :=
  fun cs hcs => h₂ cs (h₁ cs hcs)

/-! ## Lookups -/

/-- A path leads to a place that is no directory. -/
structure LeadsTo (d : Disk) (path : String) (place : List String) : Prop where
  locate_eq : d.locate path = .ok place
  ne_directory : d.nodeAt place ≠ some .directory
  names_file : Path.namesDirectory path = false

theorem LeadsTo.lookup_eq (h : d.LeadsTo path place) :
    d.lookup path = .ok (place, d.nodeAt place) := by
  rw [lookup, h.locate_eq]
  dsimp only [bind, Except.bind]
  rw [h.names_file]
  split <;> simp_all [pure, Except.pure]

theorem leadsTo_of_lookup {node : Option DiskNode} (h : d.lookup path = .ok (place, node))
    (hnode : node ≠ some .directory) (hnames : Path.namesDirectory path = false) :
    d.LeadsTo path place ∧ node = d.nodeAt place := by
  rw [lookup] at h
  -- a lookup walks first and looks at the place then
  cases hlocate : d.locate path with
  | error e =>
    rw [hlocate] at h
    cases h
  | ok found =>
    rw [hlocate] at h
    dsimp only [bind, Except.bind, pure, Except.pure] at h
    rw [hnames] at h
    split at h
    · rename_i hfile
      cases h
      exact ⟨⟨hlocate, by rw [hfile]; simp, hnames⟩, hfile.symm⟩
    · cases h
      exact ⟨⟨hlocate, hnode, hnames⟩, rfl⟩

theorem LeadsTo.of_keepsDirectories (h : d.LeadsTo path place) (hkeep : d.KeepsDirectories d')
    (hworking : d'.workingDirectory = d.workingDirectory)
    (hnode : d'.nodeAt place ≠ some .directory) : d'.LeadsTo path place :=
  ⟨locate_of_keepsDirectories hkeep hworking h.locate_eq, hnode, h.names_file⟩

/-! ## Writing and moving -/

theorem putFile_of_complete {bytes : List UInt8} {mode : Nat}
    (h : (d.putFile place bytes mode).2 = true) :
    (d.putFile place bytes mode).1 = d.setNode place (.file bytes mode) := by
  rw [putFile] at h ⊢
  -- without a limit the file is complete; with one, all of it has found room
  split
  · rfl
  · rename_i room hroom
    rw [hroom] at h
    simp only [decide_eq_true_eq] at h
    rw [List.take_of_length_le h]

/-- A complete write puts the bytes at the end of the path. -/
theorem writeFile_cases {bytes : List UInt8} {mode : Nat} {setMode : Bool}
    (h : d.writeFile path bytes mode setMode = (.ok (), d')) :
    ∃ place mode', d.LeadsTo path place ∧ d' = d.setNode place (.file bytes mode') := by
  rw [writeFile] at h
  split at h
  · cases h
  · cases h
  · rename_i place node hdirectory hlookup
    split at h
    · cases h
    · rename_i hnames
      simp only [Bool.not_eq_true] at hnames
      have hnode : node ≠ some .directory := hdirectory
      obtain ⟨hleads, -⟩ := leadsTo_of_lookup hlookup hnode hnames
      -- both branches of the mode put the file and tell whether it is complete
      have hput : ∀ {mode : Nat}, (if (d.putFile place bytes mode).2 then Except.ok ()
          else .error IoError.noSpace, (d.putFile place bytes mode).1) = (Except.ok (), d') →
          d' = d.setNode place (.file bytes mode) := by
        intro mode h
        simp only [Prod.mk.injEq] at h
        obtain ⟨hok, rfl⟩ := h
        split at hok
        · rename_i hcomplete
          exact putFile_of_complete hcomplete
        · cases hok
      exact ⟨place, _, hleads, hput h⟩

/-- A file that was moved stands at the end of its new path. -/
theorem renameFile_cases {source target : String} (h : d.renameFile source target = .ok d') :
    ∃ place node newPlace, d.lookup source = .ok (place, some node) ∧ node ≠ .directory ∧
      d.LeadsTo target newPlace ∧
      d' = { d with nodes := (d.nodes.erase (keyOf place)).insert (keyOf newPlace) node } := by
  -- one split for each check of the move; where one fails, there is no result
  rw [renameFile] at h
  dsimp only [bind, Except.bind, pure, Except.pure] at h
  split at h
  · cases h
  · rename_i found hsource
    split at h
    · cases h
    · cases h
    · rename_i place node hdirectory
      split at h
      · cases h
      · rename_i target' htarget
        obtain ⟨newPlace, old⟩ := target'
        dsimp only at h
        split at h
        · cases h
        · split at h
          · cases h
          · rename_i hnames
            split at h
            · cases h
            · rename_i hold
              cases h
              simp only [Bool.not_eq_true] at hnames
              obtain ⟨hleads, -⟩ := leadsTo_of_lookup htarget hold hnames
              exact ⟨place, node, newPlace, hsource, hdirectory, hleads, rfl⟩

/-- Moving a file away and to a new place leaves all directories. -/
theorem keepsDirectories_move {newPlace : List String} (node : DiskNode)
    (hplace : d.nodeAt place ≠ some .directory) (hnew : d.nodeAt newPlace ≠ some .directory) :
    d.KeepsDirectories
      { d with nodes := (d.nodes.erase (keyOf place)).insert (keyOf newPlace) node } := by
  refine (keepsDirectories_erase hplace).trans ?_
  refine keepsDirectories_setNode (fun hdirectory => hnew ?_) node
  obtain ⟨hempty, hfind⟩ := nodeAt_of_ne_directory hnew
  rw [nodeAt, hempty] at hdirectory
  simp only [Bool.false_eq_true, if_false, SortedTable.find?_erase] at hdirectory
  split at hdirectory
  · cases hdirectory
  · rw [hfind]
    exact hdirectory

/-- What was written and moved is at the new path. -/
theorem lookup_of_replace {temporary : String} {bytes : List UInt8} {mode : Nat} {setMode : Bool}
    {d₁ d₂ : Disk} (hwrite : d.writeFile temporary bytes mode setMode = (.ok (), d₁))
    (hrename : d₁.renameFile temporary path = .ok d₂) :
    ∃ place mode', d₂.lookup path = .ok (place, some (.file bytes mode')) := by
  -- the temporary file stands where it was written
  obtain ⟨place, mode', hleads, rfl⟩ := writeFile_cases hwrite
  obtain ⟨place', node, newPlace, hsource, -, htarget, rfl⟩ := renameFile_cases hrename
  obtain ⟨hplace, -⟩ := nodeAt_of_ne_directory hleads.ne_directory
  have hfile : (d.setNode place (.file bytes mode')).nodeAt place = some (.file bytes mode') := by
    rw [nodeAt_setNode, hplace, if_pos rfl]
    rfl
  -- so that is what the move finds
  have hfrom := (hleads.of_keepsDirectories (keepsDirectories_setNode hleads.ne_directory _) rfl
    (by rw [hfile]; simp)).lookup_eq
  rw [hfile, hsource] at hfrom
  cases hfrom
  have hnew : ∀ d' : Disk, d'.nodes = ((d.setNode place (.file bytes mode')).nodes.erase
      (keyOf place)).insert (keyOf newPlace) (.file bytes mode') →
      d'.nodeAt newPlace = some (.file bytes mode') := by
    intro d' hnodes
    obtain ⟨hempty, -⟩ := nodeAt_of_ne_directory htarget.ne_directory
    rw [nodeAt, hempty, hnodes, SortedTable.find?_insert, if_pos rfl]
    rfl
  -- the way to the new place is still there after the move
  have hmove := keepsDirectories_move (.file bytes mode')
    (by rw [hfile]; simp) htarget.ne_directory
  have hto := (htarget.of_keepsDirectories hmove rfl (by rw [hnew _ rfl]; simp)).lookup_eq
  rw [hnew _ rfl] at hto
  exact ⟨newPlace, mode', hto⟩

/-- A text that was written and moved is read at the new path. -/
theorem readText_of_replace {temporary : String} {cs : List Char} {mode : Nat} {setMode : Bool}
    {d₁ d₂ : Disk} (hwrite : d.writeFile temporary (Text.utf8 cs) mode setMode = (.ok (), d₁))
    (hrename : d₁.renameFile temporary path = .ok d₂) :
    d₂.readText path = .ok (String.ofList cs) := by
  obtain ⟨place, mode', hlookup⟩ := lookup_of_replace hwrite hrename
  rw [readText, readBytes, hlookup]
  dsimp only [bind, Except.bind, pure, Except.pure]
  rw [Text.ofUtf8?_utf8]

end Disk

namespace FileStore

open Op

variable {path : String} {d d' : Disk} {document : Document}

theorem yields_change {x : Disk → Except IoError Unit × Disk} {r : Except IoError Unit}
    (h : x d = (r, d')) :
    (change x).Yields d (r.mapError .io) d' := by
  refine (yields_state d).bind ?_
  rw [h]
  refine (yields_setState d d').bind ?_
  cases r with
  | ok u => exact yields_pure () d'
  | error e => exact yields_throw _ d'

/-- Saving fails with an error of the disk, or leaves the text of the document at the path. -/
theorem save_cases (path : String) (document : Document) (d : Disk) :
    (∃ e d', (save path document).Yields d (.error (.io e)) d') ∨
      ∃ d', (save path document).Yields d (.ok ()) d' ∧ d'.readText path = .ok document.write := by
  -- the write may fail, the move may fail, or both are done
  cases hwrite : d.writeFile (temporaryPath path) (Text.utf8 document.write.toList) privateMode
      false with
  | mk r d₁ =>
    have hfirst := yields_change
      (x := (·.writeFile (temporaryPath path) (Text.utf8 document.write.toList) privateMode false))
      hwrite
    cases r with
    | error e => exact .inl ⟨e, d₁, hfirst.bind_error⟩
    | ok u =>
      cases hrename : d₁.renameFile (temporaryPath path) path with
      | error e =>
        refine .inl ⟨e, d₁, hfirst.bind (yields_change (r := .error e) ?_)⟩
        rw [hrename]
      | ok d₂ =>
        refine .inr ⟨d₂, hfirst.bind (yields_change (r := .ok ()) ?_), ?_⟩
        · rw [hrename]
        · rw [Disk.readText_of_replace hwrite hrename, String.ofList_toList]

/-- What opening ends with where there was no file: an empty document is saved. -/
def saveEmpty (path : String) : Op Disk Unit := do
  match ← attempt (save path {}) with
  | .ok () => return
  | .error e => throw (.load e.message)

end FileStore

end CredentialStore
