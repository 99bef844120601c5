import CredentialStore.Proofs.FileStore.Spares

/-!
# Who can read the file

A new file can be read by its owner only (`open_private`). It is the temporary file that gets these
bits, and only where it is made: one that is there already keeps its own, and takes them along when
it becomes the file.

Main statements:

* `modeAt_run` — the permission bits of a file that was written;
* `modeAt_run_eq_private_iff` — they are the private ones exactly if there was no temporary file
  with others.
-/

namespace CredentialStore

namespace Disk

variable {d d' : Disk} {path : String} {place : List String} {mode : Nat}

/-- The permission bits of the file at a path. -/
def modeAt (d : Disk) (path : String) : Option Nat :=
  match d.lookup path with
  | .ok (_, some (.file _ mode)) => some mode
  | _ => none

theorem modeAt_eq_some_iff : d.modeAt path = some mode ↔
    ∃ place bytes, d.LeadsTo path place ∧ d.nodeAt place = some (.file bytes mode) := by
  rw [modeAt]
  constructor
  · intro h
    split at h
    · rename_i place bytes mode' hlookup
      cases h
      have hleads := leadsTo_of_lookup_file hlookup
      have hfound := hlookup.symm.trans hleads.lookup_eq
      exact ⟨place, bytes, hleads, (Prod.mk.inj (Except.ok.inj hfound)).2.symm⟩
    · cases h
  · rintro ⟨place, bytes, hleads, hfile⟩
    rw [hleads.lookup_eq, hfile]

/-- What is the same at the end of a path has the same permission bits. -/
theorem modeAt_congr (h : d.Rewrites d')
    (hnode : ∀ place, d.LeadsTo path place → d'.nodeAt place = d.nodeAt place) :
    d'.modeAt path = d.modeAt path := by
  refine Option.ext fun mode => ?_
  rw [modeAt_eq_some_iff, modeAt_eq_some_iff]
  refine exists_congr fun place => exists_congr fun bytes => ?_
  rw [h.leadsTo_iff]
  refine and_congr_right fun hleads => ?_
  rw [hnode place hleads]

/-- A file that is there keeps its permission bits. -/
theorem LeadsTo.modeAfter_eq (h : d.LeadsTo path place) (mode : Nat) :
    d.modeAfter place mode = (d.modeAt path).getD mode := by
  rw [modeAfter, modeAt, h.lookup_eq]
  cases d.nodeAt place with
  | none => rfl
  | some node => cases node <;> rfl

theorem Replacing.exists_leadsTo {temporary target : String} {bytes : List UInt8}
    (h : Replacing temporary target bytes mode d true d') : ∃ place, d.LeadsTo target place := by
  cases h with
  | moved _ _ hnew => exact ⟨_, hnew⟩

/-- What was moved brings its permission bits. -/
theorem Replacing.modeAt_eq {temporary target : String} {bytes : List UInt8}
    (h : Replacing temporary target bytes mode d true d') :
    d'.modeAt target = some ((d.modeAt temporary).getD mode) := by
  have hrewrites := h.rewrites
  cases h with
  | @moved place newPlace hleads hroom hnew =>
    rw [modeAt_eq_some_iff]
    refine ⟨newPlace, bytes, hrewrites.leadsTo hnew, ?_⟩
    rw [nodeAt_moved, (nodeAt_of_ne_directory hnew.ne_directory).1, if_neg Bool.false_ne_true,
      if_pos rfl, hleads.modeAfter_eq]

end Disk

namespace FileStore

open Op

variable {path : String} {d : Disk} {c : Call}

/-- The copy has no part in the permission bits of the temporary file of a path that can be written
to. -/
theorem modeAt_temporary_of_copies {d₁ : Disk} {place : List String} (hd : d.IsSound)
    (hleads : d₁.LeadsTo path place)
    (hcopy : Disk.OnlyAt (c.copies path d) (c.prepared path d) d₁) :
    d₁.modeAt (temporaryPath path) = (c.prepared path d).modeAt (temporaryPath path) := by
  refine Disk.modeAt_congr hcopy.rewrites fun _ htemporary =>
    hcopy.nodeAt_of_apart (fun other hother => ?_) htemporary.locate_eq
  -- a reset starts to write on the disk that it is called on
  obtain ⟨rfl, -⟩ := eq_of_mem_copies hother
  have hleads : d.LeadsTo path place := hcopy.rewrites.leadsTo_iff.1 hleads
  cases hname : Path.fileName? path with
  | none => exact absurd (hd.directory_of_locate hname hleads.locate_eq) hleads.ne_directory
  | some name => exact apart_of_mem_copies hname hd.slash_notMem hother

/-- A file that was written has the permission bits of the temporary file that was there before, and
the private ones if there was none. -/
theorem modeAt_run (hd : d.IsSound) (hwrites : c.Writes path d)
    (hok : (c.run path d).answer = .ok ()) :
    (c.run path d).state.modeAt path =
      some (((c.prepared path d).modeAt (temporaryPath path)).getD privateMode) := by
  cases comesTo path d c with
  | stops r hnone hrun hstops => exact absurd hwrites (hstops (hrun.1.symm.trans hok))
  | saves D d₁ d' r q hsome hcopy hsave hrun hdone =>
    obtain ⟨completed, hreplacing, hcompleted⟩ := replacing_of_save hsave
    -- a call that answers has completed its save
    obtain rfl := hcompleted.1 (hdone.1 (hrun.1.symm.trans hok))
    obtain ⟨place, hleads⟩ := hreplacing.exists_leadsTo
    rw [hrun.2, hreplacing.modeAt_eq, modeAt_temporary_of_copies hd hleads hcopy]

/-- A file that was written is private exactly if no temporary file with other permission bits was
there before. -/
theorem modeAt_run_eq_private_iff (hd : d.IsSound) (hwrites : c.Writes path d)
    (hok : (c.run path d).answer = .ok ()) :
    (c.run path d).state.modeAt path = some privateMode ↔
      ∀ mode, (c.prepared path d).modeAt (temporaryPath path) = some mode → mode = privateMode := by
  rw [modeAt_run hd hwrites hok, Option.some.injEq]
  cases (c.prepared path d).modeAt (temporaryPath path) with
  | none => exact ⟨fun _ => nofun, fun _ => rfl⟩
  | some mode => exact ⟨fun hmode _ => by rintro ⟨⟩; exact hmode, fun hall => hall mode rfl⟩

/-- A disk with a temporary file that others can read. -/
def exposedTemporary : Disk :=
  { nodes := .ofList [("/credentials.tmp", .file [] 0o644)] }

/-- A file that is made where such a temporary file was left over can be read by others, too. -/
theorem not_private_exposedTemporary :
    (exposedTemporary.IsSound ∧ Call.setUp.Writes "/credentials.toml" exposedTemporary ∧
        (Call.setUp.run "/credentials.toml" exposedTemporary).answer = .ok () ∧
        (setUp "/credentials.toml" exposedTemporary).state.modeAt "/credentials.toml" ≠
          some privateMode) ∧
      (setUp "/credentials.toml" exposedTemporary).state.modeAt "/credentials.toml" =
        some 0o644 := by
  have hname : '/' ∉ "credentials.tmp".toList := by decide
  have hsound : exposedTemporary.IsSound := Disk.isSound_ofList hname _
  have hnone : Call.setUp.Writes "/credentials.toml" exposedTemporary := by
    show exposedTemporary.pathExists "/credentials.toml" = false
    decide +kernel
  have hok : (Call.setUp.run "/credentials.toml" exposedTemporary).answer = .ok () := by
    decide +kernel
  refine ⟨⟨hsound, hnone, hok, fun hprivate => ?_⟩, by decide +kernel⟩
  have hmode := (modeAt_run_eq_private_iff hsound hnone hok).1 hprivate 0o644 (by decide +kernel)
  exact absurd hmode (by decide)

end FileStore

end CredentialStore
