import CredentialStore.Proofs.Disk.Matching
import CredentialStore.Proofs.FileStore.Secrets

/-!
# Operations on files that are alike

On two disks whose files are the same or tell documents that are equal up to their secrets, every
operation ends alike: with the same error, or with answers that are equal up to their secrets, and
it leaves disks that are alike again.

Main statements: `corresponds_load`, `corresponds_save`, and one statement for each operation.
-/

namespace CredentialStore.FileStore

open Op

variable {D E : Document}

/-- The disks have the same files, but for the secrets in the documents that they tell. -/
def AlikeDisks : Disk → Disk → Prop :=
  Disk.Matches TellAlike

/-! ## Loading and saving -/

/-- What is told of the files at a path. -/
theorem told_alike {d d' : Disk} (h : AlikeDisks d d') (path : String) :
    AnswersBy Document.WrittenAlike (told path (d.readText path)) (told path (d'.readText path)) := by
  have hsame : ∀ text : Except IoError String,
      AnswersBy Document.WrittenAlike (told path text) (told path text) := by
    intro text
    cases htold : told path text with
    | error e => exact Eq.refl e
    | ok D => exact Document.WrittenAlike.refl (isSettled_of_told htold).fits
  rcases (Disk.Matches.readBytes h path).cases with ⟨e, hd, hd'⟩ | ⟨bytes, bytes', hd, hd', htell⟩
  · rw [Disk.readText, Disk.readText, hd, hd']
    exact hsame _
  · -- the bytes are the same, or both are texts that tell documents
    rcases htell with rfl | ⟨D, E, hD, hE, hDE⟩
    · rw [Disk.readText, Disk.readText, hd, hd']
      exact hsame _
    · obtain ⟨cs, hcs, hparse⟩ := Option.bind_eq_some_iff.1 hD
      obtain ⟨cs', hcs', hparse'⟩ := Option.bind_eq_some_iff.1 hE
      rw [Disk.readText, Disk.readText, hd, hd']
      dsimp only [bind, Except.bind]
      rw [hcs, hcs']
      exact Document.load_alike hparse hparse' hDE

theorem corresponds_load (path : String) :
    Corresponds AlikeDisks Document.WrittenAlike (load path) (load path) :=
  fun d d' h => ⟨_, _, d, d', yields_load path d, yields_load path d', told_alike h path, h⟩

theorem corresponds_change {x y : Disk → Except IoError Unit × Disk}
    (h : ∀ {d d'}, AlikeDisks d d' → Disk.EndAlike TellAlike (x d) (y d')) :
    Corresponds AlikeDisks Eq (change x) (change y) := by
  intro d d' hd
  obtain ⟨hends, halike⟩ := h hd
  have hx : x d = ((x d).1, (x d).2) := rfl
  have hy : y d' = ((x d).1, (y d').2) := by rw [hends]
  exact ⟨_, _, _, _, yields_change hx, yields_change hy, .refl (fun _ => rfl) _, halike⟩

theorem corresponds_save (h : D.WrittenAlike E) (path : String) :
    Corresponds AlikeDisks Eq (save path D) (save path E) := by
  refine Corresponds.bind (corresponds_change fun hd => ?_)
    fun _ _ _ => corresponds_change fun {d d'} hd => ?_
  · exact Disk.Matches.writeFile hd (tellAlike_of_write h) _ _ _
  · rcases (Disk.Matches.renameFile hd (temporaryPath path) path).cases with
      ⟨e, hmove, hmove'⟩ | ⟨e, e', hmove, hmove', halike⟩
    · rw [hmove, hmove']
      exact ⟨rfl, hd⟩
    · rw [hmove, hmove']
      exact ⟨rfl, halike⟩

theorem corresponds_saveEmpty (path : String) :
    Corresponds AlikeDisks Eq (saveEmpty path) (saveEmpty path) := by
  refine (corresponds_save (.refl Document.isSettled_empty.fits) path).attempt.bind
    fun r q hanswers => ?_
  rw [hanswers.eq]
  cases q with
  | ok u => exact .pure rfl
  | error e => exact .throw _

theorem corresponds_setUp (path : String) :
    Corresponds AlikeDisks Eq (setUp path) (setUp path) := by
  refine .bind_state fun d d' h => ?_
  rw [Disk.Matches.pathExists_eq h]
  split
  · refine (corresponds_load path).attempt.bind fun r q hanswers => ?_
    rcases hanswers.cases with ⟨e, rfl, rfl⟩ | ⟨D, E, rfl, rfl, -⟩
    · cases e <;> exact .throw _
    · exact .pure rfl
  · dsimp only
    split
    · exact corresponds_saveEmpty path
    · rename_i directory _
      refine .bind_state fun d d' h => ?_
      obtain ⟨hends, halike⟩ := Disk.Matches.createDirectories h directory
      rw [hends]
      refine (Corresponds.setState halike).bind fun _ _ _ => ?_
      cases (d'.createDirectories directory).1 with
      | ok u => exact corresponds_saveEmpty path
      | error e =>
        exact (Corresponds.throw (Q := Eq) _).bind fun _ _ _ => corresponds_saveEmpty path

/-! ## Operations -/

theorem corresponds_list (path : String) :
    Corresponds AlikeDisks (List.Forall₂ Credential.EqUpToSecrets) (list path) (list path) :=
  (corresponds_load path).bind fun _ _ h => .pure h.list

theorem corresponds_get (path guid : String) :
    Corresponds AlikeDisks Credential.EqUpToSecrets (get path guid) (get path guid) := by
  refine (corresponds_load path).bind fun D E h => ?_
  rcases optionRel_cases (h.find? guid) with ⟨hD, hE⟩ | ⟨c, d, hD, hE, hc⟩
  · rw [hD, hE]
    exact .throw _
  · rw [hD, hE]
    exact .pure hc

theorem corresponds_set (path fresh : String) {details details' : Details}
    (h : details.EqUpToSecrets details') :
    Corresponds AlikeDisks Credential.EqUpToSecrets (set path fresh details)
      (set path fresh details') := by
  refine (corresponds_load path).bind fun D E hDE => ?_
  refine (Corresponds.ofExcept (h.toCredential fresh)).bind fun c d hc => ?_
  -- neither conflicts nor identifiers depend on secrets
  rw [Credential.checkAll_eq hDE.list hc]
  refine (Corresponds.ofExcept (.refl (fun _ => rfl) _)).bind fun _ _ _ => ?_
  rw [Credential.any_guid_eq hDE.list, hc.guid_eq]
  split
  · exact (Corresponds.throw (Q := Eq) _).bind fun _ _ _ =>
      (corresponds_save (hDE.put hc) path).bind fun _ _ _ => .pure hc
  · exact (corresponds_save (hDE.put hc) path).bind fun _ _ _ => .pure hc

theorem corresponds_forceSet (path fresh : String) {details details' : Details}
    (h : details.EqUpToSecrets details') :
    Corresponds AlikeDisks Credential.EqUpToSecrets (forceSet path fresh details)
      (forceSet path fresh details') := by
  refine (corresponds_load path).bind fun D E hDE => ?_
  refine (Corresponds.ofExcept (h.toCredential fresh)).bind fun c d hc => ?_
  -- what is passed over is only reported
  refine (Corresponds.forM_warn _ _).bind fun _ _ _ => ?_
  have hsuccessor := hDE.successor hc
  exact (corresponds_save (hDE.put hsuccessor) path).bind fun _ _ _ => .pure hsuccessor

theorem corresponds_delete (path guid : String) :
    Corresponds AlikeDisks Eq (delete path guid) (delete path guid) := by
  refine (corresponds_load path).bind fun D E h => ?_
  rcases optionRel_cases (h.find? guid) with ⟨hD, hE⟩ | ⟨c, d, hD, hE, hc⟩
  · rw [hD, hE]
    exact .throw _
  · rw [hD, hE]
    dsimp only
    rw [hc.name_eq, h.defaultServer_eq]
    exact corresponds_save (h.erase _ _) path

theorem corresponds_defaultServer (path : String) :
    Corresponds AlikeDisks (Option.Rel Credential.EqUpToSecrets) (defaultServer path)
      (defaultServer path) := by
  refine (corresponds_load path).bind fun D E h => .pure ?_
  rw [h.defaultServer_eq]
  cases E.defaultServer with
  | none => exact .none
  | some guid => exact h.find? guid

theorem corresponds_setDefaultServer (path guid : String) :
    Corresponds AlikeDisks Eq (setDefaultServer path guid) (setDefaultServer path guid) := by
  refine (corresponds_load path).bind fun D E h => ?_
  rcases optionRel_cases (h.find? guid) with ⟨hD, hE⟩ | ⟨c, d, hD, hE, hc⟩
  · rw [hD, hE]
    exact .throw _
  · rw [hD, hE]
    exact corresponds_save (h.prefer _) path

theorem corresponds_clearDefaultServer (path : String) :
    Corresponds AlikeDisks Eq (clearDefaultServer path) (clearDefaultServer path) := by
  refine (corresponds_load path).bind fun D E h => ?_
  rw [h.defaultServer_eq]
  split
  · exact corresponds_save (h.prefer _) path
  · exact .pure rfl

theorem corresponds_backUp (path : String) :
    Corresponds AlikeDisks Eq (backUp path) (backUp path) := by
  refine .bind_state fun d d' h => ?_
  rw [Disk.Matches.pathExists_eq h, Disk.Matches.today_eq h]
  split
  · exact .pure rfl
  · obtain ⟨hends, halike⟩ := Disk.Matches.copyFile h path (backupPath path d'.today)
    dsimp only
    rw [hends]
    refine (Corresponds.setState halike).bind fun _ _ _ => ?_
    cases (d'.copyFile path (backupPath path d'.today)).1 with
    | ok u => exact .pure rfl
    | error e => exact .throw _

/-- What a reset does after its copy does not depend on the files. -/
def emptyAfter (path : String) (outcome : ResetOutcome) : Op Disk ResetOutcome := do
  save path {}
  warn .fileReset
  match outcome.backup with
  | some backup => warn (.backedUp backup)
  | none => pure ()
  return outcome

theorem corresponds_emptyAfter (path : String) (outcome outcome' : ResetOutcome)
    (h : outcome = outcome') :
    Corresponds AlikeDisks Eq (emptyAfter path outcome) (emptyAfter path outcome') := by
  rw [h]
  refine (corresponds_save (.refl Document.isSettled_empty.fits) path).bind fun _ _ _ =>
    (Corresponds.warn _ _).bind fun _ _ _ => ?_
  cases outcome'.backup with
  | none => exact .pure rfl
  | some copy => exact (Corresponds.warn _ _).bind fun _ _ _ => .pure rfl

theorem corresponds_reset (path : String) :
    Corresponds AlikeDisks Eq (reset path) (reset path) := by
  have hrest := corresponds_emptyAfter path
  refine (corresponds_backUp path).attempt.bind fun r q hanswers => ?_
  rw [hanswers.eq]
  cases q with
  | ok backup => exact (Corresponds.pure (Q := Eq) rfl).bind hrest
  | error e =>
    exact (Corresponds.warn _ _).bind fun _ _ _ => (Corresponds.pure (Q := Eq) rfl).bind hrest

end CredentialStore.FileStore
