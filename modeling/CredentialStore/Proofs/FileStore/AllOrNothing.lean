import CredentialStore.Proofs.FileStore.Calls

/-!
# Operations on a file, all or nothing

A document is written to a file of another name first, which then takes the place of the old one. As
long as the other name is another one, an operation that fails leaves the bytes of the file,
whichever of its steps has failed. A file that has the name of a temporary file is its own: it is
cut before anything else can fail.

Main statements:

* `onlyAt_of_error` — an operation that fails has written to the temporary file and to the copy at
  most;
* `temporaryName_eq_iff` — the files that are their own temporary files;
* `keepsBytes_iff` — the paths at which an operation that fails leaves the bytes of the file.
-/

namespace CredentialStore.FileStore

open Op

variable {path name : String} {d d' : Disk} {D : Document}

/-! ## What a failure leaves -/

theorem onlyAt_of_backUp {r : Except CredentialError (Option String)}
    (h : (backUp path).Yields d r d') :
    Disk.OnlyAt [temporaryPath path, backupPath path d.today] d d' := by
  obtain ⟨-, rfl⟩ := h
  exact onlyAt_backUp d (by simp)

/-- An operation that fails has written to the temporary file and to the copy at most, whichever of
its steps has failed. -/
theorem onlyAt_of_error {w : Write} {e : CredentialError} (h : (w.run path).Yields d (.error e) d') :
    Disk.OnlyAt [temporaryPath path, backupPath path d.today] d d' := by
  cases comesTo path d (.write w) with
  | stops r hnone hrun hok =>
    obtain ⟨-, rfl⟩ := hrun.unique h
    exact .refl _ _
  | saves D d₁ d₂ r q hsome hcopy hsave hrun hok =>
    obtain ⟨rfl, rfl⟩ := hrun.unique h
    obtain ⟨completed, hreplacing, hcompleted⟩ := replacing_of_save hsave
    -- the save has failed, too, so nothing was moved
    cases completed with
    | true => cases hok.2 (hcompleted.2 rfl)
    | false =>
      refine Disk.OnlyAt.trans (hcopy.mono fun other hother => ?_)
        (hreplacing.onlyAt_temporary.mono (by simp))
      obtain ⟨-, rfl⟩ := eq_of_mem_copies hother
      simp

/-! ## Temporary files -/

/-- The name of the temporary file of a path with a name. -/
def temporaryName (path name : String) : String :=
  if (Path.splitExtension name).1 = "." && path.endsWith name then ".."
  else (Path.splitExtension name).1 ++ "." ++ "tmp"

theorem temporaryPath_eq (h : Path.fileName? path = some name) :
    temporaryPath path = Path.withFileName path (temporaryName path name) := by
  rw [temporaryPath, Path.withExtension, h, temporaryName]
  dsimp only
  split <;> rfl

theorem temporaryName_isName (path : String) (h : '/' ∉ name.toList) :
    '/' ∉ (temporaryName path name).toList ∧ temporaryName path name ≠ "" ∧
      temporaryName path name ≠ "." := by
  have hstem := Path.slash_notMem_stem h
  rw [temporaryName]
  split
  · exact ⟨by decide, by decide, by decide⟩
  · exact ⟨by simp [hstem], Path.ne_of_extension _ (by decide)⟩

/-- The extension of a temporary file is behind the last dot of its name. -/
theorem splitExtension_tmp {stem : String} (hnone : stem ≠ "") (hdots : stem ++ ".tmp" ≠ "..") :
    Path.splitExtension (stem ++ ".tmp") = (stem, some "tmp") := by
  have hstem : stem.toList ≠ [] := fun h => hnone (String.toList_inj.1 h)
  have htail : ((stem ++ ".tmp").toList.reverse.takeWhile (· ≠ '.')).reverse = "tmp".toList := by
    rw [String.toList_append, List.reverse_append]
    rfl
  have hlength : (stem ++ ".tmp").toList.length - "tmp".toList.length - 1 = stem.toList.length := by
    simp only [String.toList_append, List.length_append, String.reduceToList, List.length_cons,
      List.length_nil]
    omega
  have htake : (stem ++ ".tmp").toList.take stem.toList.length = stem.toList := by
    rw [String.toList_append, List.take_left]
  rw [Path.splitExtension]
  rw [htail, hlength, htake, if_pos]
  · rw [String.ofList_toList, String.ofList_toList]
  · simp [hstem, hdots]

/-- The file at a path is its own temporary file. It has the name of one, and two dots and an
extension at the very end of the path are none. -/
def IsOwnTemporary (path : String) : Prop :=
  ∃ stem, Path.fileName? path = some (stem ++ ".tmp") ∧ stem ≠ "" ∧
    ¬ (stem = "." ∧ path.endsWith (stem ++ ".tmp"))

theorem temporaryName_eq_iff (h : Path.fileName? path = some name) :
    temporaryName path name = name ↔ IsOwnTemporary path := by
  have hdots := Path.ne_dotdot_of_fileName h
  rw [IsOwnTemporary, h]
  constructor
  · intro heq
    rw [temporaryName] at heq
    split at heq
    · exact absurd heq.symm hdots
    · rename_i hend
      have hname : (Path.splitExtension name).1 ++ ".tmp" = name := by
        rw [String.append_assoc] at heq
        exact heq
      refine ⟨(Path.splitExtension name).1, by rw [hname], fun hnone => ?_,
        by rw [hname]; simpa using hend⟩
      -- a name is not split before its first character
      rw [Path.splitExtension] at hnone
      split at hnone
      · rename_i hsplit
        simp only [Bool.and_eq_true, Bool.not_eq_true', List.isEmpty_eq_false_iff] at hsplit
        exact hsplit.1.2 (by simpa using congrArg String.toList hnone)
      · exact (Path.ne_of_fileName h).1 hnone
  · rintro ⟨stem, hname, hnone, hend⟩
    cases hname
    rw [temporaryName, splitExtension_tmp hnone hdots, if_neg (by simpa using hend),
      String.append_assoc]
    rfl

theorem apart_temporaryPath (h : Path.fileName? path = some name) (hown : ¬ IsOwnTemporary path) :
    Disk.Apart path (temporaryPath path) := by
  obtain ⟨hslash, hempty, hdot⟩ := temporaryName_isName path (Path.slash_notMem_of_fileName h)
  rw [temporaryPath_eq h]
  exact Disk.apart_withFileName h hslash hempty hdot (mt (temporaryName_eq_iff h).1 hown)

/-- The name of a copy has a hyphen, which tells it from the names of directories. -/
theorem backupName_isName {today : String} (h : '/' ∉ name.toList) (htoday : '/' ∉ today.toList) :
    '/' ∉ (name ++ "-" ++ today).toList ∧ name ++ "-" ++ today ≠ "" ∧ name ++ "-" ++ today ≠ "." ∧
      name ++ "-" ++ today ≠ ".." := by
  have hhyphen : '-' ∈ (name ++ "-" ++ today).toList := by simp
  have hname : ∀ other : String, '-' ∉ other.toList → name ++ "-" ++ today ≠ other := by
    rintro other hother rfl
    exact hother hhyphen
  exact ⟨by simp [h, htoday], hname "" (by decide), hname "." (by decide), hname ".." (by decide)⟩

/-- The name of a copy is longer than that of the file. -/
theorem apart_backupPath (h : Path.fileName? path = some name) {today : String}
    (htoday : '/' ∉ today.toList) : Disk.Apart path (backupPath path today) := by
  obtain ⟨hslash, hempty, hdot, -⟩ :=
    backupName_isName (Path.slash_notMem_of_fileName h) htoday
  have hlong : name.length < (name ++ "-" ++ today).length := by
    rw [String.length_append, String.length_append]
    have hhyphen : "-".length = 1 := by decide
    omega
  rw [backupPath, h, Option.getD_some]
  refine Disk.apart_withFileName h hslash hempty hdot fun heq => ?_
  rw [heq] at hlong
  exact absurd hlong (Nat.lt_irrefl _)

/-! ## All or nothing -/

/-- Whatever the disk and whichever operation fails at it, the file at the path has the bytes that
it had. -/
def KeepsBytes (path : String) : Prop :=
  ∀ (d : Disk) (w : Write) (e : CredentialError), d.IsSound → (w.run path d).answer = .error e →
    (w.run path d).state.bytesAt path = d.bytesAt path

theorem keepsBytes_of_not_isOwnTemporary (hown : ¬ IsOwnTemporary path) : KeepsBytes path := by
  intro d w e hd herror
  have honly := onlyAt_of_error ⟨herror, rfl⟩
  refine Disk.bytesAt_congr honly.rewrites fun place hplace => ?_
  cases hname : Path.fileName? path with
  | none =>
    -- there is a directory, and it stays one
    have hdirectory := hd.directory_of_locate hname hplace
    rw [hdirectory, (honly.rewrites.directory_iff place).2 hdirectory]
  | some name =>
    refine honly.nodeAt_of_apart (fun other hother => ?_) hplace
    simp only [List.mem_cons, List.not_mem_nil, or_false] at hother
    obtain rfl | rfl := hother
    · exact apart_temporaryPath hname hown
    · exact apart_backupPath hname hd.slash_notMem

/-- A disk without any room, with one byte at a place. -/
def crowded (d : Disk) (place : List String) : Disk :=
  { d.setNode place (.file [0] privateMode) with capacity := some 0 }

section crowded

variable {place : List String} {bytes : List UInt8} {mode : Nat}

theorem nodeAt_crowded (hnode : d.nodeAt place = some (.file bytes mode)) :
    (crowded d place).nodeAt place = some (.file [0] privateMode) := by
  have hfile : d.nodeAt place ≠ some .directory := by simp [hnode]
  obtain ⟨hplace, -⟩ := Disk.nodeAt_of_ne_directory hfile
  have h := Disk.nodeAt_setNode d place (.file [0] privateMode) place
  rw [hplace, if_neg Bool.false_ne_true, if_pos rfl] at h
  exact h

theorem locate_crowded (hnode : d.nodeAt place = some (.file bytes mode))
    (hplace : d.locate path = .ok place) : (crowded d place).locate path = .ok place :=
  Disk.locate_of_keepsDirectories
    (Disk.keepsDirectories_setNode (by simp [hnode]) (.file [0] privateMode)) rfl hplace

/-- There is something where there was something before. -/
theorem isSound_crowded (hd : d.IsSound) (hnode : d.nodeAt place = some (.file bytes mode)) :
    (crowded d place).IsSound := by
  have hfile : d.nodeAt place ≠ some .directory := by simp [hnode]
  have hkeep : d.KeepsDirectories (crowded d place) :=
    Disk.keepsDirectories_setNode hfile (.file [0] privateMode)
  refine ⟨fun cs name hsome => hkeep cs (hd.around_eq cs name fun hnone => hsome ?_),
    hkeep _ hd.workingDirectory_eq, hd.slash_notMem⟩
  obtain ⟨-, hfind⟩ := Disk.nodeAt_of_ne_directory hfile
  have h := Disk.nodeAt_setNode d place (.file [0] privateMode) (cs ++ [name])
  rw [Disk.nodeAt] at hnone
  split at hnone
  · cases hnone
  · rename_i hempty
    rw [if_neg hempty, if_neg] at h
    · exact h.trans hnone
    · intro hkey
      rw [← hkey, ← hfind, hnode] at hnone
      cases hnone

/-- A reset on a disk without room cuts the file that is its own temporary file, and fails. -/
theorem exists_reset_crowded (hown : IsOwnTemporary path)
    (hnode : d.nodeAt place = some (.file bytes mode)) (hplace : d.locate path = .ok place) :
    ∃ e, (Write.reset.run path (crowded d place)).answer = .error e ∧
      (Write.reset.run path (crowded d place)).state.bytesAt path = some [] := by
  obtain ⟨stem, hname, hstem⟩ := id hown
  have hself := (temporaryName_eq_iff hname).2 hown
  -- a copy makes no room, and the path leads where it has led
  have hbackUp := (onlyAt_of_backUp (yields_self (backUp path) (crowded d place))).rewrites
  have hfile := (hbackUp.locate_eq_ok_iff).2 (locate_crowded hnode hplace)
  generalize hd₂ : (backUp path (crowded d place)).state = d₂ at hbackUp hfile
  -- and so does the path of the temporary file, to which nothing can be written
  have hleads : d₂.LeadsTo (temporaryPath path) place := by
    refine ⟨?_, ?_, ?_⟩
    · rw [temporaryPath_eq hname, hself]
      exact Disk.locate_withFileName_self hname hfile
    · rw [ne_eq, hbackUp.directory_iff, nodeAt_crowded hnode]
      simp
    · obtain ⟨hempty, hdot⟩ := Path.ne_of_fileName hname
      rw [temporaryPath_eq hname, hself, Path.withFileName, hname]
      exact Path.namesDirectory_join (Path.slash_notMem_of_fileName hname) hempty hdot
  have hbytes : Text.utf8 (Document.write {}).toList ≠ [] := by decide +kernel
  obtain ⟨mode', hwrite⟩ := Disk.writeFile_of_full hleads hbackUp.capacity_eq hbytes privateMode false
  have hcut := yields_change (r := .error .noSpace)
    (x := (·.writeFile (temporaryPath path) (Text.utf8 (Document.write {}).toList) privateMode false))
    hwrite
  have hsave : (FileStore.save path {}).Yields d₂ _ _ := hcut.bind_error
  obtain ⟨outcome, hreset⟩ := exists_reset_of_save path (crowded d place)
  rw [hd₂] at hreset
  obtain ⟨herror, hstate⟩ : (Write.reset.run path).Yields (crowded d place) _ _ :=
    (hreset hsave).map_error fun _ => ()
  refine ⟨_, herror, ?_⟩
  rw [hstate, Disk.bytesAt_eq_some_iff]
  refine ⟨place, mode', (Disk.rewrites_setNode hleads.ne_directory).locate_eq_ok_iff.2 hfile, ?_⟩
  obtain ⟨hempty, -⟩ := Disk.nodeAt_of_ne_directory hleads.ne_directory
  rw [Disk.nodeAt_setNode, hempty, if_neg Bool.false_ne_true, if_pos rfl]

end crowded

/-- At a path where there can be a file, an operation that fails leaves the bytes of the file,
unless the file is its own temporary file. -/
theorem keepsBytes_iff (hfile : ∃ d : Disk, d.IsSound ∧ (d.bytesAt path).isSome) :
    KeepsBytes path ↔ ¬ IsOwnTemporary path := by
  refine ⟨fun hkeeps hown => ?_, keepsBytes_of_not_isOwnTemporary⟩
  obtain ⟨d, hd, hbytes⟩ := hfile
  obtain ⟨bytes, hbytes⟩ := Option.isSome_iff_exists.1 hbytes
  obtain ⟨place, mode, hplace, hnode⟩ := Disk.bytesAt_eq_some_iff.1 hbytes
  obtain ⟨e, herror, hcut⟩ := exists_reset_crowded hown hnode hplace
  have hkept := hkeeps _ .reset e (isSound_crowded hd hnode) herror
  rw [hcut, Disk.bytesAt_eq_some_iff.2 ⟨place, privateMode, locate_crowded hnode hplace,
    nodeAt_crowded hnode⟩] at hkept
  cases hkept

/-- A disk with a file that has the name of a temporary file. -/
def ownTemporary : Disk :=
  { nodes := .ofList [("/credentials.tmp", .file (Text.utf8 "version = 1\n".toList) privateMode)] }

/-- With a slash behind its name, such a file is cut as well: it is emptied, and cannot be moved. -/
theorem not_keepsBytes_slashed :
    (ownTemporary.bytesAt "/credentials.tmp/").isSome ∧ ¬ KeepsBytes "/credentials.tmp/" ∧
      (reset "/credentials.tmp/" ownTemporary).answer = .error (.io .notADirectory) ∧
      ownTemporary.bytesAt "/credentials.tmp" = some (Text.utf8 "version = 1\n".toList) ∧
      (reset "/credentials.tmp/" ownTemporary).state.bytesAt "/credentials.tmp" =
        some (Text.utf8 (Document.write {}).toList) := by
  have hbytes : (ownTemporary.bytesAt "/credentials.tmp/").isSome := by decide +kernel
  have hname : '/' ∉ "credentials.tmp".toList := by decide
  have hsound : ownTemporary.IsSound := Disk.isSound_ofList hname _
  refine ⟨hbytes, fun hkeeps => ?_, by decide +kernel, by decide +kernel, by decide +kernel⟩
  exact (keepsBytes_iff ⟨ownTemporary, hsound, hbytes⟩).1 hkeeps
    ⟨"credentials", by decide +kernel, by decide, fun ⟨hdot, _⟩ => absurd hdot (by decide)⟩

end CredentialStore.FileStore
