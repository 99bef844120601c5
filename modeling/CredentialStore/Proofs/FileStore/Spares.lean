import CredentialStore.Proofs.FileStore.AllOrNothing

/-!
# What a call spares

A call on a file writes to two more paths beside it: to the temporary file that is to take its place
(`save_file`), and a reset to the copy (`backup_file`). The copy has the name of the file with the
date behind it. The temporary file has that of the file with another extension, and so may a
neighbour: such a neighbour is cut, and moved away in the place of the file. All other files are
spared, by every call and wherever it fails.

Main statements:

* `sparesBut_temporaryPath` — nothing but the file, its temporary file and the copy is touched;
* `spares_iff` — all neighbours are spared exactly if the document that is saved overwrites none.
-/

namespace CredentialStore

namespace Disk

variable {d d' : Disk} {paths : List String}

/-- Every file that is not at the end of one of the paths is still there, with its bytes and its
permission bits. Where the paths lead is told by the second disk, on which there are more
directories that they can pass. -/
def SparesBut (paths : List String) (d d' : Disk) : Prop :=
  ∀ place bytes mode, d.nodeAt place = some (.file bytes mode) →
    (∀ path ∈ paths, ¬ d'.EndsAt path place) → d'.nodeAt place = some (.file bytes mode)

/-- New directories are made beside the files. -/
theorem AddsDirectories.sparesBut (h : d.AddsDirectories d') (paths : List String) :
    SparesBut paths d d' :=
  fun _ _ _ hfile _ => h.file_iff.2 hfile

end Disk

namespace Path

theorem stem_prefix (name : String) : (splitExtension name).1.toList <+: name.toList := by
  rw [splitExtension]
  split
  · rw [String.toList_ofList]
    exact List.take_prefix _ _
  · exact List.prefix_rfl

end Path

namespace FileStore

open Op

variable {path name : String} {d d' : Disk} {D : Document}

/-! ## The copy and the temporary file -/

/-- What follows the name of the file in that of the copy starts with a hyphen, which the extension
of the temporary file does not have. -/
theorem temporaryName_ne (path name today : String) :
    temporaryName path name ≠ name ++ "-" ++ today := by
  intro heq
  have hchars := congrArg String.toList heq
  rw [String.toList_append, String.toList_append] at hchars
  have hhyphen : '-' ∈ name.toList ++ "-".toList ++ today.toList := by simp
  rw [temporaryName] at hchars
  -- two dots have no hyphen; otherwise, both names start with the stem
  split at hchars
  · rw [← hchars] at hhyphen
    exact absurd hhyphen (by decide)
  · obtain ⟨rest, hrest⟩ := Path.stem_prefix name
    rw [← hrest, String.toList_append, String.toList_append] at hchars
    simp only [List.append_assoc, List.append_cancel_left_eq] at hchars
    have hmem : '-' ∈ ".".toList ++ "tmp".toList := by
      rw [hchars]
      simp
    exact absurd hmem (by decide)

theorem apart_backupPath_temporaryPath (h : Path.fileName? path = some name) {today : String}
    (htoday : '/' ∉ today.toList) : Disk.Apart (backupPath path today) (temporaryPath path) := by
  have hslash := Path.slash_notMem_of_fileName h
  obtain ⟨hslash', hempty', hdot'⟩ := temporaryName_isName path hslash
  obtain ⟨hslash, hempty, hdot, hdots⟩ := backupName_isName hslash htoday
  rw [temporaryPath_eq h, backupPath, h, Option.getD_some]
  exact Disk.apart_withFileName_withFileName h hslash hempty hdot hdots hslash' hempty' hdot'
    (temporaryName_ne path name today)

theorem temporaryPath_of_fileName_eq_none (h : Path.fileName? path = none) :
    temporaryPath path = path := by
  rw [temporaryPath, Path.withExtension, h]

/-- The copy does not get in the way of the temporary file. -/
theorem apart_of_mem_copies {c : Call} {other : String} (h : Path.fileName? path = some name)
    (hslash : '/' ∉ d.today.toList) (hother : other ∈ c.copies path d) :
    Disk.Apart (temporaryPath path) other := by
  obtain ⟨-, rfl⟩ := eq_of_mem_copies hother
  exact fun _ _ _ hplace hplace' =>
    (apart_backupPath_temporaryPath h hslash hplace' hplace).symm

/-- Nor does it where the path has no name, unless the file itself is in the way. -/
theorem not_endsAt_copies {c : Call} {d₀ : Disk} {place : List String}
    (hslash : '/' ∉ d.today.toList) (hplace : d₀.locate (temporaryPath path) = .ok place)
    (hpath : ¬ d₀.EndsAt path place) {other : String} (hother : other ∈ c.copies path d) :
    ¬ d₀.EndsAt other place := by
  cases hname : Path.fileName? path with
  | none =>
    rw [temporaryPath_of_fileName_eq_none hname] at hplace
    exact absurd ⟨place, hplace, rfl⟩ hpath
  | some name => exact (apart_of_mem_copies hname hslash hother).not_endsAt hplace

theorem nodeAt_temporary_of_copies {c : Call} {d₀ d₁ : Disk} {place : List String}
    (hslash : '/' ∉ d.today.toList) (hcopy : Disk.OnlyAt (c.copies path d) d₀ d₁)
    (hplace : d₀.locate (temporaryPath path) = .ok place) (hpath : ¬ d₀.EndsAt path place) :
    d₁.nodeAt place = d₀.nodeAt place :=
  hcopy.nodeAt_eq place fun _ hother place' hlocate hkey =>
    not_endsAt_copies hslash hplace hpath hother ⟨place', hlocate, hkey.symm⟩

/-! ## Neighbours -/

theorem addsDirectories_prepared (path : String) (d : Disk) (c : Call) :
    d.AddsDirectories (c.prepared path d) := by
  cases c with
  | setUp =>
    show d.AddsDirectories (if d.pathExists path then d else (makeAround path d).2)
    split
    · exact .refl d
    · rw [makeAround]
      split
      · exact .refl d
      · exact Disk.addsDirectories_createDirectories d _
  | list => exact .refl d
  | get _ => exact .refl d
  | defaultServer => exact .refl d
  | write _ => exact .refl d

/-- Nothing but the file, its temporary file and the copy is touched, whatever the call comes to. -/
theorem sparesBut_temporaryPath (path : String) (d : Disk) (c : Call) :
    Disk.SparesBut (temporaryPath path :: path :: c.copies path d) d (c.run path d).state := by
  have hadds := addsDirectories_prepared path d c
  cases comesTo path d c with
  | stops r hnone hrun hok =>
    rw [hrun.2]
    exact hadds.sparesBut _
  | saves D d₁ d' r q hsome hcopy hsave hrun hok =>
    obtain ⟨completed, hreplacing, -⟩ := replacing_of_save hsave
    have hends : ∀ {other place}, d'.EndsAt other place ↔ d₁.EndsAt other place :=
      hreplacing.rewrites.endsAt_iff
    rw [hrun.2]
    intro place bytes mode hfile hplace
    -- back from the last disk to the first one: the save, the copy, the directories
    rw [hreplacing.onlyAt.nodeAt_eq place, hcopy.nodeAt_eq place]
    · exact hadds.file_iff.2 hfile
    · intro other hother place' hlocate hkey
      refine hplace other (List.mem_cons_of_mem _ (List.mem_cons_of_mem _ hother)) (hends.2 ?_)
      exact hcopy.rewrites.endsAt_iff.2 ⟨place', hlocate, hkey.symm⟩
    · intro other hother place' hlocate hkey
      refine hplace other ?_ (hends.2 ⟨place', hlocate, hkey.symm⟩)
      simp only [List.mem_cons, List.not_mem_nil, or_false] at hother ⊢
      exact hother.imp_right .inl

/-- A copy that is made before changes nothing about what is overwritten. -/
theorem overwrites_iff_of_copies {c : Call} {d₀ d₁ : Disk} {bytes : List UInt8}
    (hslash : '/' ∉ d.today.toList) (hcopy : Disk.OnlyAt (c.copies path d) d₀ d₁) :
    d₁.Overwrites (temporaryPath path) path bytes ↔ d₀.Overwrites (temporaryPath path) path bytes := by
  refine exists_congr fun place => exists_congr fun old => exists_congr fun mode => ?_
  simp only [hcopy.rewrites.leadsTo_iff, hcopy.rewrites.endsAt_iff, hcopy.rewrites.fitting_eq,
    hcopy.rewrites.hasRoom_iff]
  refine and_congr_right fun hleads => and_congr_left fun ⟨hpath, _⟩ => ?_
  rw [nodeAt_temporary_of_copies hslash hcopy hleads.locate_eq hpath]

/-- All neighbours of a file are spared exactly if the document that is saved, if any is, overwrites
none. -/
theorem spares_iff (path : String) (d : Disk) (c : Call) (hslash : '/' ∉ d.today.toList) :
    Disk.SparesBut (path :: c.copies path d) d (c.run path d).state ↔
      ∀ D, c.saves path d = some D →
        ¬ (c.prepared path d).Overwrites (temporaryPath path) path (Text.utf8 D.write.toList) := by
  have hadds := addsDirectories_prepared path d c
  cases comesTo path d c with
  | stops r hnone hrun hok =>
    rw [hrun.2, hnone]
    exact ⟨fun _ D hsome => (nomatch hsome), fun _ => hadds.sparesBut _⟩
  | saves D d₁ d' r q hsome hcopy hsave hrun hok =>
    obtain ⟨completed, hreplacing, -⟩ := replacing_of_save hsave
    have hends : ∀ {other place}, d'.EndsAt other place ↔ (c.prepared path d).EndsAt other place :=
      hreplacing.rewrites.endsAt_iff.trans hcopy.rewrites.endsAt_iff
    rw [hrun.2, hsome]
    constructor
    · -- what was overwritten is a neighbour that is not spared
      rintro hspares _ ⟨⟩ hover
      obtain ⟨place, old, mode, hleads, hfile, htarget, hlost⟩ :=
        hreplacing.exists_overwritten ((overwrites_iff_of_copies hslash hcopy).2 hover)
      have hplace := hcopy.rewrites.locate_eq_ok_iff.1 hleads.locate_eq
      have htarget' := mt hcopy.rewrites.endsAt_iff.2 htarget
      rw [nodeAt_temporary_of_copies hslash hcopy hplace htarget', hadds.file_iff] at hfile
      refine hlost (hspares place old mode hfile fun other hother => ?_)
      rw [hends]
      rcases List.mem_cons.1 hother with rfl | hother
      · exact htarget'
      · exact not_endsAt_copies hslash hplace htarget' hother
    · intro hnot place bytes mode hfile hplace
      by_cases htemporary : d'.EndsAt (temporaryPath path) place
      · -- the file is still there when the save starts
        have hcopied : d₁.nodeAt place = some (.file bytes mode) := by
          rw [hcopy.nodeAt_eq place, hadds.file_iff]
          · exact hfile
          · intro other hother place' hlocate hkey
            exact hplace other (List.mem_cons_of_mem _ hother)
              (hends.2 ⟨place', hlocate, hkey.symm⟩)
        refine hreplacing.file_of_not_overwrites ?_ hcopied ?_ ?_
        · exact mt (overwrites_iff_of_copies hslash hcopy).1 (hnot D rfl)
        · exact hreplacing.rewrites.endsAt_iff.1 htemporary
        · exact mt hreplacing.rewrites.endsAt_iff.2 (hplace path List.mem_cons_self)
      · -- elsewhere nothing is touched
        have hspares := sparesBut_temporaryPath path d c
        rw [hrun.2] at hspares
        exact hspares place bytes mode hfile (List.forall_mem_cons.2 ⟨htemporary, hplace⟩)

/-- Opening a file makes it and loses a neighbour that has the name of its temporary file. -/
theorem not_spares_temporary :
    ownTemporary.bytesAt "/credentials.tmp" = some (Text.utf8 "version = 1\n".toList) ∧
      ('/' ∉ ownTemporary.today.toList ∧ ¬ Disk.SparesBut ["/credentials.toml"] ownTemporary
        (Call.setUp.run "/credentials.toml" ownTemporary).state) ∧
      (setUp "/credentials.toml" ownTemporary).answer = .ok () ∧
      (setUp "/credentials.toml" ownTemporary).state.bytesAt "/credentials.tmp" = none := by
  have htoday : '/' ∉ ownTemporary.today.toList := by decide
  refine ⟨by decide +kernel, ⟨htoday, fun hspares => ?_⟩, by decide +kernel, by decide +kernel⟩
  have hmade : (makeAround "/credentials.toml" ownTemporary).1 = .ok () := by decide +kernel
  refine (spares_iff "/credentials.toml" ownTemporary .setUp htoday).1 hspares {} ?_ ?_
  · rw [Call.saves, if_neg (by decide +kernel), hmade]
  · have hroom : (Call.setUp.prepared "/credentials.toml" ownTemporary).capacity = none := by
      decide +kernel
    -- the neighbour stands where the new file is written first, and is moved
    refine ⟨["credentials.tmp"], Text.utf8 "version = 1\n".toList, privateMode,
      ⟨by decide +kernel, by decide +kernel, by decide +kernel⟩, by decide +kernel, ?_,
      .inr ⟨fun room hlimit => ?_, ["credentials.toml"], by decide +kernel, by decide +kernel,
        by decide +kernel⟩⟩
    · rintro ⟨place', hplace', hkey⟩
      have htoml : (Call.setUp.prepared "/credentials.toml" ownTemporary).locate
          "/credentials.toml" = .ok ["credentials.toml"] := by decide +kernel
      cases hplace'.symm.trans htoml
      exact absurd hkey (by decide)
    · cases hroom.symm.trans hlimit

end FileStore

end CredentialStore
