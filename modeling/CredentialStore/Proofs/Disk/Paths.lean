import CredentialStore.Proofs.Disk.Writes
import Mathlib.Data.List.TakeWhile

/-!
# Paths with another name

A path is the text around its last name, the name, and slashes and dots behind it that name nothing.
With another name in that place it has the same components before the last one.

Main statements:

* `Path.exists_splits` — the parts of a path;
* `Path.components_withFileName` — the components of a path with another name;
* `Path.utf8ByteSize_withFileName_le` — a path that is written anew gets no longer.
-/

namespace CredentialStore

namespace Path

/-! ## Components -/

/-- The parts between slashes that name something. -/
def namesIn (cs : List Char) : List (List Char) :=
  (cs.splitOn '/').filter fun part => part ≠ [] ∧ part ≠ ['.']

theorem components_eq_map (path : String) :
    components path = (namesIn path.toList).map String.ofList := by
  rw [components, namesIn, List.filter_map]
  refine congrArg _ (List.filter_congr fun part _ => ?_)
  have hempty : String.ofList part = "" ↔ part = [] := by
    rw [← String.toList_inj, String.toList_ofList]
    rfl
  have hdot : String.ofList part = "." ↔ part = ['.'] := by
    rw [← String.toList_inj, String.toList_ofList]
    rfl
  rw [Bool.eq_iff_iff]
  simp [hempty, hdot]

@[simp]
theorem namesIn_nil : namesIn [] = [] := by
  decide

theorem namesIn_append_slash (xs ys : List Char) :
    namesIn (xs ++ '/' :: ys) = namesIn xs ++ namesIn ys := by
  rw [namesIn, List.splitOn_eq_splitOnP, List.splitOnP_append_cons _ _ (by decide),
    List.filter_append, ← List.splitOn_eq_splitOnP, ← List.splitOn_eq_splitOnP]
  rfl

theorem namesIn_concat_slash (xs : List Char) : namesIn (xs ++ ['/']) = namesIn xs := by
  rw [namesIn_append_slash, namesIn_nil, List.append_nil]

theorem namesIn_of_name {cs : List Char} (hslash : '/' ∉ cs) (hempty : cs ≠ []) (hdot : cs ≠ ['.']) :
    namesIn cs = [cs] := by
  rw [namesIn, List.splitOn_eq_singleton hslash, List.filter_cons_of_pos (by simp [hempty, hdot]),
    List.filter_nil]

/-! ## The directory around a path -/

/-- What is dropped from the end of a path names nothing. -/
theorem namesIn_reverse_dropEnd (cs : List Char) :
    namesIn (dropEnd cs).reverse = namesIn cs.reverse := by
  fun_induction dropEnd cs with
  | case1 => rfl
  | case2 rest _ ih => rw [ih, List.reverse_cons, namesIn_concat_slash]
  | case3 rest ih =>
    rw [ih, List.reverse_cons, List.reverse_cons, List.reverse_cons, List.append_assoc]
    exact (namesIn_concat_slash _).trans ((List.append_nil _).symm.trans
      (namesIn_append_slash rest.reverse ['.']).symm)
  | case4 => rfl

/-- The start of a path stays. -/
theorem getLast?_dropEnd (cs : List Char) : (dropEnd cs).getLast? = cs.getLast? := by
  fun_induction dropEnd cs with
  | case1 => rfl
  | case2 rest hrest ih =>
    rw [ih]
    cases rest with
    | nil => exact absurd rfl hrest
    | cons c rest => rw [List.getLast?_cons_cons]
  | case3 rest ih => rw [ih, List.getLast?_cons_cons]
  | case4 => rfl

/-- A path that names something ends, where nothing can be dropped, in a name. -/
theorem dropEnd_cases (cs : List Char) :
    dropEnd cs = [] ∨ dropEnd cs = ['/'] ∨ ∃ c rest, dropEnd cs = c :: rest ∧ c ≠ '/' ∧
      ¬ (c = '.' ∧ ∃ rest', rest = '/' :: rest') := by
  fun_induction dropEnd cs with
  | case1 => exact .inr (.inl rfl)
  | case2 rest _ ih => exact ih
  | case3 rest ih => exact ih
  | case4 cs hroot hslash hdot =>
    cases cs with
    | nil => exact .inl rfl
    | cons c rest =>
      refine .inr (.inr ⟨c, rest, rfl, ?_, ?_⟩)
      · rintro rfl
        exact hslash rest rfl
      · rintro ⟨rfl, rest', rfl⟩
        exact hdot rest' rfl

/-- What is dropped stands at the end. -/
theorem dropEnd_suffix (cs : List Char) : dropEnd cs <:+ cs := by
  fun_induction dropEnd cs with
  | case1 => exact List.suffix_rfl
  | case2 rest _ ih => exact ih.trans (List.suffix_cons '/' rest)
  | case3 rest ih => exact ih.trans (List.suffix_cons '.' _)
  | case4 cs => exact List.suffix_rfl

theorem endsWith_slash_iff {s : String} :
    s.endsWith "/" = true ↔ ∃ before, s.toList = before ++ ['/'] := by
  rw [String.endsWith_eq_endsWith_toSlice, String.Slice.endsWith_string_iff, String.copy_toSlice]
  exact ⟨fun ⟨before, h⟩ => ⟨before, h.symm⟩, fun ⟨before, h⟩ => ⟨before, h.symm⟩⟩

/-- The path of a directory that is written around a name. -/
def directoryOf (around : List Char) : String :=
  String.ofList (dropEnd around.reverse).reverse

/-- The parts of a path that names something: what stands around the last name, the name, and what
names nothing behind it. -/
structure Splits (path : String) (around last tail : List Char) : Prop where
  toList_eq : path.toList = around ++ last ++ tail
  around_eq : around = [] ∨ ∃ before, around = before ++ ['/']
  slash_notMem : '/' ∉ last
  ne_nil : last ≠ []
  namesIn_eq : namesIn path.toList = namesIn around ++ [last]
  parent?_eq : parent? path = some (directoryOf around)

/-- Seen from the end, a name stops at a slash or at the front of the path. -/
theorem dropWhile_slash_cases (cs : List Char) : cs.dropWhile (· ≠ '/') = [] ∨
    ∃ before, cs.dropWhile (· ≠ '/') = '/' :: before := by
  cases hdrop : cs.dropWhile (· ≠ '/') with
  | nil => exact .inl rfl
  | cons d before =>
    have hhead := List.head?_dropWhile_not (· ≠ '/') cs
    rw [hdrop] at hhead
    have hd : d = '/' := by simpa using hhead
    exact .inr ⟨before, by rw [hd]⟩

/-- Where nothing can be dropped, a dot is no name of its own. -/
theorem takeWhile_ne_dot {c : Char} {rest : List Char} (hc : c ≠ '/')
    (hdot : ¬ (c = '.' ∧ ∃ rest', rest = '/' :: rest')) (hmore : c :: rest ≠ ['.']) :
    (c :: rest).takeWhile (· ≠ '/') ≠ ['.'] := by
  intro heq
  rw [List.takeWhile_cons_of_pos (by simpa using hc)] at heq
  obtain ⟨rfl, hrest⟩ := List.cons.inj heq
  cases rest with
  | nil => exact hmore rfl
  | cons d rest =>
    by_cases hd : d = '/'
    · exact hdot ⟨rfl, rest, by rw [hd]⟩
    · rw [List.takeWhile_cons_of_pos (by simpa using hd)] at hrest
      cases hrest

theorem parent?_of_dropEnd {path : String} {c : Char} {rest : List Char}
    (h : dropEnd path.toList.reverse = c :: rest) (hc : c ≠ '/') :
    parent? path =
      some (String.ofList (dropEnd ((c :: rest).dropWhile (· ≠ '/'))).reverse) := by
  rw [parent?, h]
  split
  · rename_i heq
    cases heq
  · rename_i heq
    cases heq
    exact absurd rfl hc
  · rfl

theorem exists_splits {path : String} (h : namesIn path.toList ≠ []) :
    ∃ around last tail, Splits path around last tail := by
  have hnames := namesIn_reverse_dropEnd path.toList.reverse
  obtain ⟨tail, htail⟩ := dropEnd_suffix path.toList.reverse
  have hcases := dropEnd_cases path.toList.reverse
  rw [List.reverse_reverse] at hnames
  obtain hnone | hroot | ⟨c, rest, hcs, hc, hdot⟩ := hcases
  · rw [← hnames, hnone] at h
    exact absurd namesIn_nil h
  · rw [← hnames, hroot] at h
    exact absurd (by decide) h
  -- the last name is all that stands before the first slash, seen from the end
  have hparent := parent?_of_dropEnd hcs hc
  rw [hcs] at hnames htail
  have hmore : c :: rest ≠ ['.'] := fun heq => by
    rw [← hnames, heq] at h
    exact h (by decide)
  have hlast : '/' ∉ (c :: rest).takeWhile (· ≠ '/') := fun hmem => by
    simpa using List.mem_takeWhile_imp hmem
  have hsplit : (c :: rest).takeWhile (· ≠ '/') ++ (c :: rest).dropWhile (· ≠ '/') = c :: rest :=
    List.takeWhile_append_dropWhile
  have hne : (c :: rest).takeWhile (· ≠ '/') ≠ [] := by simp [hc]
  have hname := takeWhile_ne_dot hc hdot hmore
  have haround := dropWhile_slash_cases (c :: rest)
  have hlastNames := namesIn_of_name (mt List.mem_reverse.1 hlast) (mt List.reverse_eq_nil_iff.1 hne)
    fun heq => hname (List.reverse_eq_iff.1 heq)
  rw [← hsplit] at hnames htail
  generalize (c :: rest).takeWhile (· ≠ '/') = last at hlast hne hnames htail hlastNames
  generalize (c :: rest).dropWhile (· ≠ '/') = around at haround hnames htail hparent
  refine ⟨around.reverse, last.reverse, tail.reverse, ?_, ?_, mt List.mem_reverse.1 hlast,
    mt List.reverse_eq_nil_iff.1 hne, ?_, by rw [directoryOf, List.reverse_reverse]; exact hparent⟩
  · rw [← List.reverse_append, ← List.reverse_append, htail, List.reverse_reverse]
  · obtain rfl | ⟨before, rfl⟩ := haround
    · exact .inl rfl
    · exact .inr ⟨before.reverse, List.reverse_cons⟩
  · rw [← hnames, List.reverse_append, ← hlastNames]
    obtain rfl | ⟨before, rfl⟩ := haround
    · rw [List.reverse_nil, List.nil_append, namesIn_nil, List.nil_append]
    · rw [List.reverse_cons, List.append_assoc, List.singleton_append, namesIn_append_slash,
        namesIn_concat_slash]

theorem namesIn_directoryOf (around : List Char) :
    namesIn (directoryOf around).toList = namesIn around := by
  rw [directoryOf, String.toList_ofList, namesIn_reverse_dropEnd, List.reverse_reverse]

theorem head?_directoryOf (around : List Char) :
    (directoryOf around).toList.head? = around.head? := by
  rw [directoryOf, String.toList_ofList, List.head?_reverse, getLast?_dropEnd, List.getLast?_reverse]

namespace Splits

variable {path : String} {around last tail : List Char}

theorem isAbsolute_eq (h : Splits path around last tail) :
    isAbsolute path = isAbsolute (directoryOf around) := by
  rw [isAbsolute, isAbsolute, head?_directoryOf, h.toList_eq]
  cases around with
  | nil =>
    obtain ⟨c, rest, hlast⟩ := List.exists_cons_of_ne_nil h.ne_nil
    have hc : c ≠ '/' := fun heq => h.slash_notMem (by rw [hlast, heq]; exact List.mem_cons_self)
    rw [hlast]
    simpa using hc
  | cons c rest => rfl

/-- The directory is as long as what stands around the name at most, and shorter by a slash unless
it ends in one itself. -/
theorem size_directoryOf (h : Splits path around last tail) :
    (directoryOf around).utf8ByteSize ≤ (String.ofList around).utf8ByteSize ∧
      ((directoryOf around).isEmpty = false → (directoryOf around).endsWith "/" = false →
        (directoryOf around).utf8ByteSize < (String.ofList around).utf8ByteSize) := by
  have hshorter : ∀ {xs ys : List Char}, xs <:+ ys.reverse →
      (String.ofList xs.reverse).utf8ByteSize ≤ (String.ofList ys).utf8ByteSize := by
    rintro xs ys ⟨zs, hzs⟩
    rw [← List.reverse_reverse ys, ← hzs, List.reverse_append, String.ofList_append,
      String.utf8ByteSize_append]
    exact Nat.le_add_right _ _
  have hsuffix := dropEnd_suffix around.reverse
  refine ⟨hshorter hsuffix, fun hempty hend => ?_⟩
  obtain rfl | ⟨before, rfl⟩ := h.around_eq
  · rw [directoryOf, List.suffix_nil.1 hsuffix] at hempty
    exact absurd hempty (by decide)
  rw [List.reverse_append, List.reverse_singleton, List.singleton_append] at hsuffix
  rcases List.suffix_cons_iff.1 hsuffix with heq | hsuffix
  · -- nothing was dropped, so the slash is still there
    refine absurd ?_ (Bool.eq_false_iff.1 hend)
    rw [endsWith_slash_iff]
    refine ⟨before, ?_⟩
    rw [directoryOf, List.reverse_append, List.reverse_singleton, List.singleton_append, heq,
      String.toList_ofList, List.reverse_cons, List.reverse_reverse]
  · have hle := hshorter hsuffix
    rw [directoryOf, List.reverse_append, List.reverse_singleton, List.singleton_append,
      String.ofList_append, String.utf8ByteSize_append]
    exact Nat.lt_of_le_of_lt hle (Nat.lt_add_of_pos_right (by decide))

end Splits

/-! ## Another name -/

variable {path name : String}

theorem namesIn_ne_nil_of_fileName (h : fileName? path = some name) : namesIn path.toList ≠ [] := by
  intro hnil
  rw [fileName?, components_eq_map, hnil] at h
  cases h

/-- A name is the last component. -/
theorem components_of_fileName (h : fileName? path = some name) :
    components path = (components path).dropLast ++ [name] := by
  have hlast : (components path).getLast? = some name := by
    rw [fileName?] at h
    split at h
    · rename_i last hlast
      split at h
      · cases h
      · cases h
        exact hlast
    · cases h
  obtain ⟨around, hcomponents⟩ := List.getLast?_eq_some_iff.1 hlast
  rw [hcomponents, List.dropLast_concat]

theorem ne_of_fileName (h : fileName? path = some name) : name ≠ "" ∧ name ≠ "." := by
  have hmem : name ∈ components path := by
    rw [components_of_fileName h]
    exact List.mem_append_right _ (List.mem_singleton.2 rfl)
  rw [components] at hmem
  simpa using (List.mem_filter.1 hmem).2

theorem ne_dotdot_of_fileName (h : fileName? path = some name) : name ≠ ".." := by
  rw [fileName?] at h
  split at h
  · split at h
    · cases h
    · rename_i hne
      cases h
      exact hne
  · cases h

/-- What is joined to a directory stands behind its names, and the path starts where the directory
starts. -/
theorem namesIn_join (directory : String) (hslash : '/' ∉ name.toList) (hempty : name ≠ "")
    (hdot : name ≠ ".") :
    namesIn (join directory name).toList = namesIn directory.toList ++ [name.toList] ∧
      isAbsolute (join directory name) = isAbsolute directory := by
  have hname : namesIn name.toList = [name.toList] :=
    namesIn_of_name hslash (fun h => hempty (String.toList_inj.1 h))
      fun h => hdot (String.toList_inj.1 h)
  rw [join]
  by_cases hnone : directory.isEmpty = true
  · have hstart : isAbsolute name = false := by
      rw [isAbsolute, beq_eq_false_iff_ne]
      exact fun hhead => hslash (List.mem_of_head? hhead)
    rw [hnone, String.isEmpty_iff.1 hnone, Bool.true_or, if_pos rfl, String.empty_append, hname,
      hstart]
    exact ⟨rfl, rfl⟩
  have hne : directory.isEmpty = false := by simpa using hnone
  obtain ⟨c, cs, hcs⟩ := List.exists_cons_of_ne_nil
    (mt (fun h => String.isEmpty_iff.2 (String.toList_inj.1 h)) hnone : directory.toList ≠ [])
  rw [hne, Bool.false_or]
  by_cases hend : directory.endsWith "/" = true
  · rw [if_pos hend]
    obtain ⟨around, haround⟩ := endsWith_slash_iff.1 hend
    refine ⟨?_, ?_⟩
    · rw [String.toList_append, haround, List.append_assoc, List.singleton_append,
        namesIn_append_slash, namesIn_concat_slash, hname]
    · rw [isAbsolute, isAbsolute, String.toList_append, hcs]
      rfl
  · rw [if_neg hend]
    refine ⟨?_, ?_⟩
    · rw [String.toList_append, String.toList_append, List.append_assoc]
      exact (namesIn_append_slash _ _).trans (congrArg _ hname)
    · rw [isAbsolute, isAbsolute, String.toList_append, String.toList_append, hcs]
      rfl

theorem withFileName_of_splits {new : String} {around last tail : List Char}
    (h : fileName? path = some name) (hsplits : Splits path around last tail) :
    withFileName path new = join (directoryOf around) new := by
  rw [withFileName, h, hsplits.parent?_eq]
  rfl

/-- The path of another name has the same components before it, and starts where the path starts. -/
theorem components_withFileName {new : String} (h : fileName? path = some name)
    (hslash : '/' ∉ new.toList) (hempty : new ≠ "") (hdot : new ≠ ".") :
    components (withFileName path new) = (components path).dropLast ++ [new] ∧
      isAbsolute (withFileName path new) = isAbsolute path := by
  obtain ⟨around, last, tail, hsplits⟩ := exists_splits (namesIn_ne_nil_of_fileName h)
  obtain ⟨hjoin, hstart⟩ := namesIn_join (directoryOf around) hslash hempty hdot
  rw [withFileName_of_splits h hsplits, components_eq_map, components_eq_map, hjoin,
    namesIn_directoryOf, hsplits.namesIn_eq, List.map_append, List.map_append, List.map_singleton,
    List.map_singleton, List.dropLast_concat, String.ofList_toList, hstart, hsplits.isAbsolute_eq]
  exact ⟨rfl, rfl⟩

/-- Written anew with the name that it has, a path gets no longer. -/
theorem utf8ByteSize_withFileName_le (h : fileName? path = some name) :
    (withFileName path name).utf8ByteSize ≤ path.utf8ByteSize := by
  obtain ⟨around, last, tail, hsplits⟩ := exists_splits (namesIn_ne_nil_of_fileName h)
  have hname : name = String.ofList last := by
    have hcomponents := components_of_fileName h
    rw [components_eq_map, hsplits.namesIn_eq, List.map_append, List.map_singleton] at hcomponents
    exact (List.append_inj' hcomponents rfl).2 |> List.singleton_inj.1 |>.symm
  have hpath : path.utf8ByteSize = (String.ofList around).utf8ByteSize + name.utf8ByteSize +
      (String.ofList tail).utf8ByteSize := by
    rw [← String.ofList_toList (s := path), hsplits.toList_eq, String.ofList_append,
      String.ofList_append, String.utf8ByteSize_append, String.utf8ByteSize_append, hname]
  obtain ⟨hle, hlt⟩ := hsplits.size_directoryOf
  rw [withFileName_of_splits h hsplits, join, hpath]
  split
  · rw [String.utf8ByteSize_append]
    omega
  · rename_i hneither
    rw [Bool.or_eq_true, not_or, Bool.not_eq_true, Bool.not_eq_true] at hneither
    have hlt := hlt hneither.1 hneither.2
    have hslash : "/".utf8ByteSize = 1 := by decide
    rw [String.utf8ByteSize_append, String.utf8ByteSize_append, hslash]
    omega

end Path

end CredentialStore
