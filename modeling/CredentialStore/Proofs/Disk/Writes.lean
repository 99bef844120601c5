import CredentialStore.Proofs.FileStore.Save
import CredentialStore.Proofs.Text.Characters

/-!
# Writes that find their way

Where a path leads to no directory and the disk has room, writing and moving cannot fail. A write
changes files alone, whether it succeeds or not, so what has been written elsewhere before does not
stand in the way.

Main statements: `Path.namesDirectory_withExtension`, `Disk.rewrites_writeFile`,
`Disk.writeFile_of_leadsTo` and `Disk.renameFile_of_leadsTo`.
-/

namespace CredentialStore

/-! ## Paths -/

namespace Path

theorem getLast?_splitOn {xs ys : List Char} (h : '/' ∉ ys) :
    ((xs ++ '/' :: ys).splitOn '/').getLast? = some ys := by
  rw [List.splitOn_eq_splitOnP, List.splitOnP_append_cons _ _ (by decide),
    ← List.splitOn_eq_splitOnP, ← List.splitOn_eq_splitOnP, List.splitOn_eq_singleton h,
    List.getLast?_concat]

/-- A path to a name names no directory. -/
theorem namesDirectory_join {directory name : String} (hslash : '/' ∉ name.toList)
    (hempty : name ≠ "") (hdot : name ≠ ".") : namesDirectory (join directory name) = false := by
  -- the name is what comes behind the last slash, or all there is
  have hlast : ((join directory name).toList.splitOn '/').getLast? = some name.toList := by
    rw [join]
    split
    · rename_i hend
      rcases Bool.or_eq_true _ _ ▸ hend with hnone | hend
      · rw [String.isEmpty_iff.1 hnone, String.empty_append, List.splitOn_eq_singleton hslash]
        rfl
      · rw [String.endsWith_eq_endsWith_toSlice, String.Slice.endsWith_string_iff] at hend
        obtain ⟨around, haround⟩ := hend
        rw [String.toList_append, ← String.copy_toSlice (s := directory), ← haround,
          List.append_assoc]
        exact getLast?_splitOn hslash
    · rw [String.toList_append, String.toList_append, List.append_assoc]
      exact getLast?_splitOn hslash
  rw [namesDirectory, hlast]
  simp only [Bool.or_eq_false_iff, beq_eq_false_iff_ne]
  exact ⟨fun h => hempty (String.toList_inj.1 h), fun h => hdot (String.toList_inj.1 h)⟩

theorem slash_notMem_of_fileName {path name : String} (h : fileName? path = some name) :
    '/' ∉ name.toList := by
  have hmem : name ∈ components path := by
    rw [fileName?] at h
    split at h
    · rename_i last hlast
      split at h
      · cases h
      · cases h
        exact List.mem_of_getLast? hlast
    · cases h
  obtain ⟨part, hpart, rfl⟩ := List.mem_map.1 (List.mem_filter.1 hmem).1
  rw [String.toList_ofList]
  exact fun hc => (Text.of_mem_splitOn hpart _ hc).2 rfl

theorem slash_notMem_stem {name : String} (h : '/' ∉ name.toList) :
    '/' ∉ (splitExtension name).1.toList := by
  rw [splitExtension]
  split
  · rw [String.toList_ofList]
    exact fun hc => h (List.mem_of_mem_take hc)
  · exact h

/-- A dot and something behind it is longer than a dot. -/
theorem ne_of_extension (stem : String) {extension : String} (hempty : extension ≠ "") :
    stem ++ "." ++ extension ≠ "" ∧ stem ++ "." ++ extension ≠ "." := by
  have hlong : 1 < (stem ++ "." ++ extension).toList.length := by
    have hlength : 0 < extension.toList.length :=
      List.length_pos_iff.2 fun h => hempty (String.toList_inj.1 h)
    simp only [String.toList_append, List.length_append, String.reduceToList,
      List.length_singleton]
    omega
  refine ⟨fun h => ?_, fun h => ?_⟩
  · exact absurd hlong (by rw [h]; decide)
  · exact absurd hlong (by rw [h]; decide)

/-- Another extension makes no directory of a path. -/
theorem namesDirectory_withExtension {path extension : String}
    (h : namesDirectory path = false) (hslash : '/' ∉ extension.toList) (hempty : extension ≠ "") :
    namesDirectory (withExtension path extension) = false := by
  rw [withExtension]
  cases hname : fileName? path with
  | none => exact h
  | some name =>
    have hstem := slash_notMem_stem (slash_notMem_of_fileName hname)
    dsimp only
    split
    · rw [withFileName, hname]
      exact namesDirectory_join (by decide) (by decide) (by decide)
    · rw [withFileName, hname]
      obtain ⟨hne, hdot⟩ := ne_of_extension (splitExtension name).1 hempty
      exact namesDirectory_join (by simp [hstem, hslash]) hne hdot

theorem endsInDot_of_namesDirectory {path : String} (h : namesDirectory path = false) :
    endsInDot path = false := by
  cases hlast : (path.toList.splitOn '/').getLast? with
  | none =>
    rw [namesDirectory, hlast] at h
    cases h
  | some last =>
    rw [namesDirectory, hlast] at h
    simp only [Bool.or_eq_false_iff, beq_eq_false_iff_ne] at h
    obtain ⟨before, hsplit⟩ := List.getLast?_eq_some_iff.1 hlast
    rw [endsInDot, hsplit, List.filter_append]
    simp [h.1, h.2]

end Path

namespace Disk

variable {d d' : Disk} {path : String} {place : List String}

/-! ## Files are rewritten -/

/-- The second disk has the directories of the first one, and the same limits. -/
structure Rewrites (d d' : Disk) : Prop where
  workingDirectory_eq : d'.workingDirectory = d.workingDirectory
  capacity_eq : d'.capacity = d.capacity
  directory_iff : ∀ cs, d'.nodeAt cs = some .directory ↔ d.nodeAt cs = some .directory

namespace Rewrites

theorem refl (d : Disk) : d.Rewrites d :=
  ⟨rfl, rfl, fun _ => .rfl⟩

theorem trans {d'' : Disk} (h : d.Rewrites d') (h' : d'.Rewrites d'') : d.Rewrites d'' :=
  ⟨h'.workingDirectory_eq.trans h.workingDirectory_eq, h'.capacity_eq.trans h.capacity_eq,
    fun cs => (h'.directory_iff cs).trans (h.directory_iff cs)⟩

theorem keepsDirectories (h : d.Rewrites d') : d.KeepsDirectories d' :=
  fun cs => (h.directory_iff cs).2

/-- Walks end where they have ended. -/
theorem locate_eq_ok_iff (h : d.Rewrites d') :
    d'.locate path = .ok place ↔ d.locate path = .ok place :=
  ⟨locate_of_keepsDirectories (fun cs => (h.directory_iff cs).1) h.workingDirectory_eq.symm,
    locate_of_keepsDirectories h.keepsDirectories h.workingDirectory_eq⟩

/-- Paths lead where they have led. -/
theorem leadsTo (h : d.Rewrites d') (hleads : d.LeadsTo path place) : d'.LeadsTo path place :=
  hleads.of_keepsDirectories h.keepsDirectories h.workingDirectory_eq
    (mt (h.directory_iff place).1 hleads.ne_directory)

end Rewrites

theorem rewrites_setNode (h : d.nodeAt place ≠ some .directory) {bytes : List UInt8} {mode : Nat} :
    d.Rewrites (d.setNode place (.file bytes mode)) := by
  refine ⟨rfl, rfl, fun cs => ⟨fun hcs => ?_, keepsDirectories_setNode h _ cs⟩⟩
  -- a directory is where there was one, since the new node is a file
  rw [nodeAt_setNode] at hcs
  rw [nodeAt]
  split at hcs
  · rename_i hempty
    rw [if_pos hempty]
  · rename_i hempty
    rw [if_neg hempty]
    split at hcs
    · cases hcs
    · exact hcs

/-- A write leaves the disk, or puts a file at the end of the path, also where it fails. -/
theorem writeFile_leaves (d : Disk) (path : String) (bytes : List UInt8) (mode : Nat)
    (setMode : Bool) : (d.writeFile path bytes mode setMode).2 = d ∨
      ∃ place bytes' mode', d.LeadsTo path place ∧
        (d.writeFile path bytes mode setMode).2 = d.setNode place (.file bytes' mode') := by
  rw [writeFile]
  split
  · exact .inl rfl
  · exact .inl rfl
  · rename_i place node hdirectory hlookup
    split
    · exact .inl rfl
    · rename_i hnames
      obtain ⟨hleads, -⟩ := leadsTo_of_lookup hlookup hdirectory (by simpa using hnames)
      refine .inr ⟨place, ?_⟩
      dsimp only
      rw [putFile]
      split
      · exact ⟨_, _, hleads, rfl⟩
      · exact ⟨_, _, hleads, rfl⟩

/-- A write changes files alone, also where it fails. -/
theorem rewrites_writeFile (d : Disk) (path : String) (bytes : List UInt8) (mode : Nat)
    (setMode : Bool) : d.Rewrites (d.writeFile path bytes mode setMode).2 := by
  rcases writeFile_leaves d path bytes mode setMode with heq | ⟨place, bytes', mode', hleads, heq⟩
  · rw [heq]
    exact .refl d
  · rw [heq]
    exact rewrites_setNode hleads.ne_directory

theorem rewrites_copyFile (d : Disk) (source target : String) :
    d.Rewrites (d.copyFile source target).2 := by
  rw [copyFile]
  split
  · exact .refl d
  · exact .refl d
  · exact .refl d
  · exact rewrites_writeFile d target _ _ true

/-! ## Writes that succeed -/

/-- The disk has room for a file of bytes. -/
def HasRoom (d : Disk) (bytes : List UInt8) : Prop :=
  ∀ room, d.capacity = some room → bytes.length ≤ room

theorem putFile_of_hasRoom {bytes : List UInt8} (h : d.HasRoom bytes) (place : List String)
    (mode : Nat) : d.putFile place bytes mode = (d.setNode place (.file bytes mode), true) := by
  rw [putFile]
  split
  · rfl
  · rename_i room hroom
    rw [List.take_of_length_le (h room hroom), decide_eq_true (h room hroom)]

theorem writeFile_of_leadsTo {bytes : List UInt8} (h : d.LeadsTo path place)
    (hroom : d.HasRoom bytes) (mode : Nat) (setMode : Bool) :
    ∃ mode', d.writeFile path bytes mode setMode =
      (.ok (), d.setNode place (.file bytes mode')) := by
  rw [writeFile, h.lookup_eq]
  -- a file that is there may keep its mode
  cases hnode : d.nodeAt place with
  | none =>
    refine ⟨mode, ?_⟩
    simp only [h.names_file, putFile_of_hasRoom hroom]
    rfl
  | some node =>
    cases node with
    | directory => exact absurd hnode h.ne_directory
    | file _ old =>
      refine ⟨if setMode then mode else old, ?_⟩
      simp only [h.names_file, putFile_of_hasRoom hroom]
      rfl

/-- Without any room, a write cuts the file. -/
theorem writeFile_of_full {bytes : List UInt8} (h : d.LeadsTo path place)
    (hroom : d.capacity = some 0) (hbytes : bytes ≠ []) (mode : Nat) (setMode : Bool) :
    ∃ mode', d.writeFile path bytes mode setMode =
      (.error .noSpace, d.setNode place (.file [] mode')) := by
  have hput : ∀ mode, d.putFile place bytes mode = (d.setNode place (.file [] mode), false) := by
    intro mode
    simp [putFile, hroom, hbytes]
  rw [writeFile, h.lookup_eq]
  cases hnode : d.nodeAt place with
  | none =>
    refine ⟨mode, ?_⟩
    simp only [h.names_file, hput]
    rfl
  | some node =>
    cases node with
    | directory => exact absurd hnode h.ne_directory
    | file _ old =>
      refine ⟨if setMode then mode else old, ?_⟩
      simp only [h.names_file, hput]
      rfl

theorem renameFile_of_leadsTo {source target : String} {bytes : List UInt8} {mode : Nat}
    {newPlace : List String} (hsource : d.lookup source = .ok (place, some (.file bytes mode)))
    (htarget : d.LeadsTo target newPlace) : ∃ d', d.renameFile source target = .ok d' := by
  rw [renameFile, hsource]
  dsimp only [bind, Except.bind, pure, Except.pure]
  rw [htarget.lookup_eq]
  dsimp only
  rw [if_neg (by simp [Path.endsInDot_of_namesDirectory htarget.names_file]),
    if_neg (by simp [htarget.names_file]), if_neg htarget.ne_directory]
  exact ⟨_, rfl⟩

/-- Where a file was written, it is found. -/
theorem lookup_setNode_file (h : d.LeadsTo path place) (bytes : List UInt8) (mode : Nat) :
    (d.setNode place (.file bytes mode)).lookup path = .ok (place, some (.file bytes mode)) := by
  obtain ⟨hplace, -⟩ := nodeAt_of_ne_directory h.ne_directory
  rw [((rewrites_setNode h.ne_directory).leadsTo h).lookup_eq, nodeAt_setNode, hplace, if_pos rfl]
  rfl

/-- A path to a regular file is one that can be written to. -/
theorem leadsTo_of_lookup_file {bytes : List UInt8} {mode : Nat}
    (h : d.lookup path = .ok (place, some (.file bytes mode))) : d.LeadsTo path place := by
  refine (leadsTo_of_lookup h (by simp) ?_).1
  rw [lookup] at h
  cases hlocate : d.locate path with
  | error e =>
    rw [hlocate] at h
    cases h
  | ok found =>
    rw [hlocate] at h
    dsimp only [bind, Except.bind, pure, Except.pure] at h
    split at h
    · split at h
      · cases h
      · rename_i hnames
        simpa using hnames
    · -- any other node is passed on as it is, and this one would be a file
      rename_i hnode
      injection h with h
      exact absurd (Prod.mk.inj h).2 (hnode bytes mode)

end Disk

end CredentialStore
