import CredentialStore.Proofs.Disk.Paths

/-!
# Neighbours in a directory

A path with another name leads to the same directory, and there to another place if the name is
another one. So what is written to a neighbour of a file does not touch the file.

Main statements:

* `exists_around_of_locate` — paths that differ in the last name pass the same directories;
* `apart_withFileName` — they lead to different places;
* `OnlyAt.nodeAt_of_apart` — what was written to other places has changed nothing at a path.
-/

namespace CredentialStore

namespace Disk

variable {d : Disk} {path other : String} {place place' : List String}

/-! ## The places of neighbours -/

/-- The place of a name in a directory, both in reverse. -/
def below (around : List String) (name : String) : List String :=
  if name = ".." then around.drop 1 else name :: around

/-- Up to the last name, a walk does not depend on it, and passes directories. -/
theorem exists_around_of_walk {above cs : List String} {name : String}
    (h : d.walk above (cs ++ [name]) = .ok place) :
    ∃ around, place = (below around name).reverse ∧
      (d.nodeAt above.reverse = some .directory → d.nodeAt around.reverse = some .directory) ∧
      ∀ name', d.walk above (cs ++ [name']) =
        if maxName < name'.utf8ByteSize then .error .nameTooLong
        else .ok (below around name').reverse := by
  induction cs generalizing above with
  | nil =>
    rw [List.nil_append, walk] at h
    split at h
    · cases h
    · cases h
      exact ⟨above, rfl, id, fun name' => by rw [List.nil_append, walk]; rfl⟩
  | cons c cs ih =>
    rw [List.cons_append, walk] at h
    split at h
    · cases h
    · rename_i hc
      dsimp only at h
      rw [if_neg (by simp)] at h
      split at h
      · cases h
      · cases h
      · rename_i hdirectory
        obtain ⟨around, hplace, haround, hwalk⟩ := ih h
        refine ⟨around, hplace, fun _ => haround hdirectory, fun name' => ?_⟩
        rw [List.cons_append, walk, if_neg hc]
        dsimp only
        rw [if_neg (by simp), hdirectory]
        exact hwalk name'

/-- Two paths that differ in the last name alone pass the same directories. -/
theorem exists_around_of_locate {name name' : String}
    (hname : Path.components path = (Path.components path).dropLast ++ [name])
    (hname' : Path.components other = (Path.components path).dropLast ++ [name'])
    (habsolute : Path.isAbsolute other = Path.isAbsolute path) (h : d.locate path = .ok place)
    (h' : d.locate other = .ok place') :
    ∃ around, place = (below around name).reverse ∧ place' = (below around name').reverse := by
  rw [locate] at h h'
  split at h
  · cases h
  split at h
  · cases h
  split at h'
  · cases h'
  split at h'
  · cases h'
  rw [hname] at h
  rw [hname', habsolute] at h'
  obtain ⟨around, hplace, -, hwalk⟩ := exists_around_of_walk h
  rw [hwalk] at h'
  split at h'
  · cases h'
  · cases h'
    exact ⟨around, hplace, rfl⟩

theorem keyOf_append (xs ys : List String) : keyOf (xs ++ ys) = keyOf xs ++ keyOf ys := by
  rw [keyOf, keyOf, keyOf, List.map_append, String.join_append]

theorem keyOf_reverse_cons (name : String) (around : List String) :
    keyOf (name :: around).reverse = keyOf around.reverse ++ ("/" ++ name) := by
  have hname : keyOf [name] = "/" ++ name := String.empty_append
  rw [List.reverse_cons, keyOf_append, hname]

/-- Different names in a directory are kept under different keys. -/
theorem keyOf_below_ne {around : List String} {name name' : String} (hname : name ≠ "..")
    (hne : name' ≠ name) : keyOf (below around name).reverse ≠ keyOf (below around name').reverse := by
  rw [below, if_neg hname, keyOf_reverse_cons]
  rw [below]
  split
  · -- the key of the directory above is shorter
    have hle : (keyOf (around.drop 1).reverse).length ≤ (keyOf around.reverse).length := by
      cases around with
      | nil => exact Nat.le_refl _
      | cons a rest =>
        rw [keyOf_reverse_cons, String.length_append]
        exact Nat.le_add_right _ _
    intro heq
    have hlength := congrArg String.length heq
    rw [String.length_append, String.length_append] at hlength
    have hslash : "/".length = 1 := by decide
    omega
  · rw [keyOf_reverse_cons]
    intro heq
    have hchars := congrArg String.toList heq
    simp only [String.toList_append, List.append_cancel_left_eq] at hchars
    exact hne (String.toList_inj.1 hchars).symm

/-! ## What is written beside a file -/

/-- The paths lead to different places, on whatever disk. -/
def Apart (path other : String) : Prop :=
  ∀ ⦃d : Disk⦄ ⦃place place'⦄, d.locate path = .ok place → d.locate other = .ok place' →
    keyOf place ≠ keyOf place'

theorem apart_withFileName {name new : String} (h : Path.fileName? path = some name)
    (hslash : '/' ∉ new.toList) (hempty : new ≠ "") (hdot : new ≠ ".") (hne : new ≠ name) :
    Apart path (Path.withFileName path new) := by
  intro d place place' hplace hplace'
  obtain ⟨hcomponents, habsolute⟩ := Path.components_withFileName h hslash hempty hdot
  obtain ⟨around, rfl, rfl⟩ := exists_around_of_locate (Path.components_of_fileName h) hcomponents
    habsolute hplace hplace'
  exact keyOf_below_ne (Path.ne_dotdot_of_fileName h) hne

/-- Two other names in the directory of a path lead to different places. -/
theorem apart_withFileName_withFileName {name new new' : String}
    (h : Path.fileName? path = some name) (hslash : '/' ∉ new.toList) (hempty : new ≠ "")
    (hdot : new ≠ ".") (hdots : new ≠ "..") (hslash' : '/' ∉ new'.toList) (hempty' : new' ≠ "")
    (hdot' : new' ≠ ".") (hne : new' ≠ new) :
    Apart (Path.withFileName path new) (Path.withFileName path new') := by
  intro d place place' hplace hplace'
  obtain ⟨hcomponents, habsolute⟩ := Path.components_withFileName h hslash hempty hdot
  obtain ⟨hcomponents', habsolute'⟩ := Path.components_withFileName h hslash' hempty' hdot'
  have hlast : Path.components (Path.withFileName path new) =
      (Path.components (Path.withFileName path new)).dropLast ++ [new] := by
    rw [hcomponents, List.dropLast_concat]
  have hlast' : Path.components (Path.withFileName path new') =
      (Path.components (Path.withFileName path new)).dropLast ++ [new'] := by
    rw [hcomponents, List.dropLast_concat, hcomponents']
  obtain ⟨around, rfl, rfl⟩ := exists_around_of_locate hlast hlast'
    (habsolute'.trans habsolute.symm) hplace hplace'
  exact keyOf_below_ne hdots hne

/-- With the name that it has, a path leads where it has led. -/
theorem locate_withFileName_self {name : String} (h : Path.fileName? path = some name)
    (hplace : d.locate path = .ok place) :
    d.locate (Path.withFileName path name) = .ok place := by
  obtain ⟨hempty, hdot⟩ := Path.ne_of_fileName h
  obtain ⟨hcomponents, habsolute⟩ :=
    Path.components_withFileName h (Path.slash_notMem_of_fileName h) hempty hdot
  rw [← Path.components_of_fileName h] at hcomponents
  have hsize := Path.utf8ByteSize_withFileName_le h
  rw [locate] at hplace ⊢
  split at hplace
  · cases hplace
  split at hplace
  · cases hplace
  rename_i hshort
  rw [if_neg, if_neg (fun hlong => hshort (Nat.lt_of_lt_of_le hlong hsize)), hcomponents, habsolute]
  · exact hplace
  · -- an empty path has no components
    intro hnone
    rw [String.isEmpty_iff.1 hnone] at hcomponents
    have hlast := Path.components_of_fileName h
    rw [← hcomponents, show Path.components "" = [] by decide] at hlast
    exact absurd hlast.symm (List.append_ne_nil_of_right_ne_nil _ (List.cons_ne_nil name []))

/-- The second disk differs from the first one only in files at the ends of the paths. -/
structure OnlyAt (paths : List String) (d d' : Disk) : Prop where
  rewrites : d.Rewrites d'
  nodeAt_eq : ∀ place, (∀ other ∈ paths, ∀ place', d.locate other = .ok place' →
    keyOf place ≠ keyOf place') → d'.nodeAt place = d.nodeAt place

namespace OnlyAt

variable {paths : List String} {d' d'' : Disk}

theorem refl (paths : List String) (d : Disk) : OnlyAt paths d d :=
  ⟨.refl d, fun _ _ => rfl⟩

theorem trans (h : OnlyAt paths d d') (h' : OnlyAt paths d' d'') : OnlyAt paths d d'' := by
  refine ⟨h.rewrites.trans h'.rewrites, fun place hplace => ?_⟩
  rw [h'.nodeAt_eq place fun other hother place' hlocate => ?_, h.nodeAt_eq place hplace]
  exact hplace other hother place' (h.rewrites.locate_eq_ok_iff.1 hlocate)

theorem mono {paths' : List String} (h : OnlyAt paths d d') (hsub : ∀ other ∈ paths, other ∈ paths') :
    OnlyAt paths' d d' :=
  ⟨h.rewrites, fun place hplace => h.nodeAt_eq place fun other hother =>
    hplace other (hsub other hother)⟩

/-- What was written to other places has changed nothing at a path. -/
theorem nodeAt_of_apart (h : OnlyAt paths d d') (hapart : ∀ other ∈ paths, Apart path other)
    (hplace : d.locate path = .ok place) : d'.nodeAt place = d.nodeAt place :=
  h.nodeAt_eq place fun other hother _ hother' => hapart other hother hplace hother'

end OnlyAt

theorem onlyAt_writeFile {paths : List String} (hmem : path ∈ paths) (d : Disk) (bytes : List UInt8)
    (mode : Nat) (setMode : Bool) : OnlyAt paths d (d.writeFile path bytes mode setMode).2 := by
  refine ⟨rewrites_writeFile d path bytes mode setMode, fun place hplace => ?_⟩
  rcases writeFile_leaves d path bytes mode setMode with heq | ⟨place', bytes', mode', hleads, heq⟩
  · rw [heq]
  · rw [heq, nodeAt_setNode, nodeAt,
      if_neg (Ne.symm (hplace path hmem place' hleads.locate_eq))]

theorem onlyAt_copyFile {paths : List String} {target : String} (hmem : target ∈ paths) (d : Disk)
    (source : String) : OnlyAt paths d (d.copyFile source target).2 := by
  rw [copyFile]
  split
  · exact .refl _ d
  · exact .refl _ d
  · exact .refl _ d
  · exact onlyAt_writeFile hmem d _ _ true

/-! ## Disks of a computer -/

/-- A disk as a computer has it: everything lies in directories, paths start in one, and a date has
no slash in it. -/
structure IsSound (d : Disk) : Prop where
  around_eq : ∀ cs name, d.nodeAt (cs ++ [name]) ≠ none → d.nodeAt cs = some .directory
  workingDirectory_eq : d.nodeAt d.workingDirectory = some .directory
  slash_notMem : '/' ∉ d.today.toList

theorem isSound_empty {today : String} (htoday : '/' ∉ today.toList) :
    IsSound { today := today } := by
  refine ⟨fun cs last hsome => ?_, rfl, htoday⟩
  -- there is nothing but the root
  refine absurd ?_ hsome
  rw [nodeAt, if_neg (by simp)]
  rfl

/-- The key of what is in a directory has a slash behind the first one. -/
theorem keyOf_ne_of_slash_notMem {name : String} (hslash : '/' ∉ name.toList) (c last : String)
    (rest : List String) : keyOf [name] ≠ keyOf (c :: rest ++ [last]) := by
  intro hkey
  have hfirst : keyOf (c :: rest ++ [last]) = "/" ++ (c ++ (keyOf rest ++ ("/" ++ last))) := by
    rw [keyOf_append, keyOf, keyOf, keyOf, List.map_cons, List.map_singleton, String.join_cons,
      String.join_cons, String.join_nil, String.append_empty]
    simp only [String.append_assoc]
  have hname : keyOf [name] = "/" ++ name := String.empty_append
  rw [hfirst, hname] at hkey
  have hchars := congrArg String.toList hkey
  simp only [String.toList_append, List.append_cancel_left_eq] at hchars
  refine hslash ?_
  rw [hchars]
  simp

/-- What is put at the root, in the place of no directory, leaves a disk sound. -/
theorem IsSound.setNode_root (h : d.IsSound) {name : String} (hslash : '/' ∉ name.toList)
    (hnode : d.nodeAt [name] ≠ some .directory) (node : DiskNode) :
    (d.setNode [name] node).IsSound := by
  have hkeeps := keepsDirectories_setNode hnode node
  refine ⟨fun cs last hsome => ?_, hkeeps _ h.workingDirectory_eq, h.slash_notMem⟩
  cases cs with
  | nil => rfl
  | cons c rest =>
    rw [nodeAt_setNode, if_neg (by simp), if_neg (keyOf_ne_of_slash_notMem hslash c last rest)]
      at hsome
    refine hkeeps _ (h.around_eq _ last ?_)
    rw [nodeAt, if_neg (by simp)]
    exact hsome

/-- A disk with one file, at its root. -/
theorem isSound_ofList {name : String} (hslash : '/' ∉ name.toList) (node : DiskNode) :
    IsSound { nodes := .ofList [("/" ++ name, node)] } := by
  have hnone : ({} : Disk).nodeAt [name] = none := rfl
  have hname : keyOf [name] = "/" ++ name := String.empty_append
  have hsound := (isSound_empty List.not_mem_nil).setNode_root hslash
    (by rw [hnone]; exact nofun) node
  rw [setNode, hname] at hsound
  exact hsound

/-- A path without a name at its end leads to a directory. -/
theorem IsSound.directory_of_locate (h : d.IsSound) (hname : Path.fileName? path = none)
    (hplace : d.locate path = .ok place) : d.nodeAt place = some .directory := by
  rw [locate] at hplace
  split at hplace
  · cases hplace
  split at hplace
  · cases hplace
  generalize habove :
    (if Path.isAbsolute path = true then [] else d.workingDirectory.reverse) = above at hplace
  have hdirectory : d.nodeAt above.reverse = some .directory := by
    rw [← habove]
    split
    · rfl
    · rw [List.reverse_reverse]
      exact h.workingDirectory_eq
  rw [Path.fileName?] at hname
  split at hname
  · -- the last component names the directory above
    rename_i last hlast
    split at hname
    · rename_i hdots
      subst hdots
      obtain ⟨before, hcomponents⟩ := List.getLast?_eq_some_iff.1 hlast
      rw [hcomponents] at hplace
      obtain ⟨around, rfl, haround, -⟩ := exists_around_of_walk hplace
      have haround := haround hdirectory
      rw [below, if_pos rfl]
      cases around with
      | nil => exact haround
      | cons a rest =>
        rw [List.reverse_cons] at haround
        exact h.around_eq rest.reverse a (by rw [haround]; exact Option.some_ne_none _)
    · cases hname
  · rename_i hlast
    rw [List.getLast?_eq_none_iff.1 hlast] at hplace
    cases hplace
    exact hdirectory

/-- The bytes of the file that a path leads to, also where slashes behind it ask for a directory. -/
def bytesAt (d : Disk) (path : String) : Option (List UInt8) :=
  match d.locate path with
  | .error _ => none
  | .ok place =>
    match d.nodeAt place with
    | some (.file bytes _) => some bytes
    | _ => none

theorem bytesAt_eq_some_iff {bytes : List UInt8} : d.bytesAt path = some bytes ↔
    ∃ place mode, d.locate path = .ok place ∧ d.nodeAt place = some (.file bytes mode) := by
  rw [bytesAt]
  cases hlocate : d.locate path with
  | error e => exact ⟨nofun, fun ⟨_, _, he, _⟩ => nomatch he⟩
  | ok place =>
    dsimp only
    cases hnode : d.nodeAt place with
    | none =>
      refine ⟨nofun, ?_⟩
      rintro ⟨_, mode, ⟨⟩, hfile⟩
      rw [hnode] at hfile
      cases hfile
    | some node =>
      cases node with
      | directory =>
        refine ⟨nofun, ?_⟩
        rintro ⟨_, mode, ⟨⟩, hfile⟩
        rw [hnode] at hfile
        cases hfile
      | file bytes' mode' =>
        constructor
        · rintro ⟨⟩
          exact ⟨place, mode', rfl, hnode⟩
        · rintro ⟨_, mode, ⟨⟩, hfile⟩
          rw [hnode] at hfile
          cases hfile
          rfl

/-- What is the same at the end of a path has the same bytes. -/
theorem bytesAt_congr {d' : Disk} (h : d.Rewrites d')
    (hnode : ∀ place, d.locate path = .ok place → d'.nodeAt place = d.nodeAt place) :
    d'.bytesAt path = d.bytesAt path := by
  refine Option.ext fun bytes => ?_
  rw [bytesAt_eq_some_iff, bytesAt_eq_some_iff]
  refine exists_congr fun place => exists_congr fun mode => ?_
  rw [h.locate_eq_ok_iff]
  refine and_congr_right fun hlocate => ?_
  rw [hnode place hlocate]

end Disk

end CredentialStore
