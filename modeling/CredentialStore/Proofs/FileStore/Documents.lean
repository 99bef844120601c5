import CredentialStore.Proofs.Credential.WellFormed
import CredentialStore.Proofs.FileStore.Save
import CredentialStore.Proofs.Service.Run

/-!
# The file store on documents

A file that loads tells a document, whoever wrote it: versions may be old, URLs may have had another
form in the file and fields may be missing. A loaded document is settled, which is all that it takes
to be read back as it was written. Every operation is then a function on documents: it fails at the
disk, or answers what the function answers and leaves a file that tells what the function leaves.

Main statements: `Loads.isSettled` (what a file tells is settled) and `leaves_perform` (every
request is the function on documents).
-/

namespace CredentialStore.FileStore

open Op

/-! ## Settled entries -/

namespace Entry

/-- A version that is known, and a URL that is left as it is. -/
structure IsSettled (e : Entry) : Prop where
  version_le : e.version ≤ currentVersion
  normalized_eq : e.normalized = e

theorem version_normalized (e : Entry) : e.normalized.version = e.version := by
  rw [normalized]
  split
  · split <;> rfl
  · rfl

/-- A URL in its normal form stays as it is. -/
theorem normalized_of_normalize {e : Entry} (h : ServerUrl.normalize e.url = .ok e.url) :
    e.normalized = e := by
  rw [normalized, h]
  split <;> rfl

theorem normalized_normalized (e : Entry) : e.normalized.normalized = e.normalized := by
  by_cases hcomplete : e.isComplete = true
  · cases hurl : ServerUrl.normalize e.url with
    | ok url =>
      have hnormal : e.normalized = { e with url } := by
        rw [normalized, if_pos hcomplete, hurl]
      rw [hnormal]
      exact normalized_of_normalize (ServerUrl.normalize_idem hurl)
    | error fault =>
      -- a URL that has no normal form is left as it is, and so it is again
      have hsame : e.normalized = e := by rw [normalized, if_pos hcomplete, hurl]
      rw [hsame, hsame]
  · have hsame : e.normalized = e := by rw [normalized, if_neg hcomplete]
    rw [hsame, hsame]

theorem isSettled_ofCredential {c : Credential} (h : c.ReadsBack) : (ofCredential c).IsSettled :=
  ⟨Nat.le_refl _, normalized_of_normalize h.normalize_url⟩

end Entry

/-! ## Documents -/

namespace Document

/-- The new entry stands in the place of the one of its name, or at the end. -/
theorem forall_put {P : Entry → Prop} {D : Document} (h : ∀ e ∈ D.credentials.entries, P e.2)
    {c : Credential} (hc : P (Entry.ofCredential c)) :
    ∀ e ∈ (D.put c).credentials.entries, P e.2 := by
  have haux : ∀ es : List (String × Entry), (∀ e ∈ es, P e.2) →
      ∀ e ∈ OrderedTable.insertEntry c.name (Entry.ofCredential c) es, P e.2 := by
    intro es
    induction es with
    | nil =>
      intro _ e he
      rw [List.mem_singleton.1 he]
      exact hc
    | cons x rest ih =>
      intro hes e he
      rw [OrderedTable.insertEntry] at he
      have hrest : ∀ y ∈ rest, P y.2 := fun y hy => hes y (List.mem_cons_of_mem x hy)
      split at he
      · rcases List.mem_cons.1 he with rfl | he
        · exact hc
        · exact hrest e he
      · rcases List.mem_cons.1 he with rfl | he
        · exact hes e List.mem_cons_self
        · exact ih hrest e he
  exact haux _ h

/-- Every entry is settled. -/
def IsSettled (D : Document) : Prop :=
  ∀ e ∈ D.credentials.entries, e.2.IsSettled

namespace IsSettled

variable {D : Document}

theorem fits (h : D.IsSettled) : D.Fits := by
  intro e he
  have hversion := (h e he).version_le
  rw [currentVersion] at hversion
  omega

theorem checkVersions_eq (h : D.IsSettled) : D.checkVersions = .ok () :=
  forM_of_forall fun e he => checkVersion_eq_ok_iff.2 (h e he).version_le

theorem normalized_eq (h : D.IsSettled) : D.normalized = D := by
  have hentries : (D.credentials.mapValues fun _ e => e.normalized) = D.credentials := by
    refine OrderedTable.ext ((List.map_congr_left fun e he => ?_).trans (List.map_id _))
    show (e.1, e.2.normalized) = e
    rw [(h e he).normalized_eq]
  rw [normalized, hentries]

theorem put (h : D.IsSettled) {c : Credential} (hc : c.ReadsBack) : (D.put c).IsSettled :=
  forall_put h (Entry.isSettled_ofCredential hc)

theorem prefer (h : D.IsSettled) (preferred : Option String) :
    ({ D with defaultServer := preferred } : Document).IsSettled :=
  h

theorem erase (h : D.IsSettled) (name : String) (preferred : Option String) :
    (⟨preferred, D.credentials.erase name⟩ : Document).IsSettled :=
  fun e he => h e (List.mem_filter.1 he).1

end IsSettled

theorem isSettled_empty : Document.IsSettled {} :=
  fun _ he => (List.not_mem_nil he).elim

/-- What was loaded is settled: versions were checked, URLs brought into their normal form. -/
theorem isSettled_of_load {path text : String} {D : Document} (h : load path text = .ok D) :
    D.IsSettled := by
  rw [load] at h
  cases hparse : parse? text with
  | none =>
    rw [hparse] at h
    cases h
  | some raw =>
    rw [hparse] at h
    cases hcheck : raw.checkVersions with
    | error e =>
      simp only [hcheck] at h
      cases h
    | ok u =>
      simp only [hcheck] at h
      cases h
      intro e he
      obtain ⟨x, hx, rfl⟩ := List.mem_map.1 he
      refine ⟨?_, x.2.normalized_normalized⟩
      show x.2.normalized.version ≤ currentVersion
      rw [Entry.version_normalized]
      exact checkVersion_eq_ok_iff.1 (forall_of_forM hcheck hx)

/-! ## Operations on documents -/

theorem find?_eq_list (D : Document) (guid : String) :
    D.find? guid = D.list.find? (·.guid == guid) := by
  rw [find?, list, List.find?_map]
  rfl

/-- The credential with an identifier, or the error of there being none. -/
def get (D : Document) (guid : String) : Except CredentialError Credential :=
  match D.find? guid with
  | some c => .ok c
  | none => .error (.notFound guid)

def set (D : Document) (fresh : String) (details : Details) :
    Except CredentialError Credential × Document :=
  match details.toCredential fresh with
  | .error e => (.error e, D)
  | .ok c =>
    match Credential.checkAll D.list c with
    | .error e => (.error e, D)
    | .ok () =>
      if D.list.any (·.guid == c.guid) then
        (.error (.storage ("credential guid " ++ c.guid ++ " is already in use")), D)
      else (.ok c, D.put c)

/-- The credential that takes the place of the entry of the same name: with the identifier of that
entry, if it has any. -/
def successor (D : Document) (candidate : Credential) : Credential :=
  match D.credentials.find? candidate.name with
  | some previous =>
    if previous.guid = "" then candidate else { candidate with guid := previous.guid }
  | none => candidate

def forceSet (D : Document) (fresh : String) (details : Details) :
    Except CredentialError Credential × Document :=
  match details.toCredential fresh with
  | .error e => (.error e, D)
  | .ok candidate => (.ok (D.successor candidate), D.put (D.successor candidate))

def delete (D : Document) (guid : String) : Except CredentialError Unit × Document :=
  match D.find? guid with
  | none => (.error (.notFound guid), D)
  | some c =>
    (.ok (), {
      defaultServer := if D.defaultServer = some guid then none else D.defaultServer
      credentials := D.credentials.erase c.name })

/-- The preferred credential. -/
def preferred (D : Document) : Option Credential :=
  D.defaultServer.bind D.find?

def setDefaultServer (D : Document) (guid : String) : Except CredentialError Unit × Document :=
  match D.find? guid with
  | none => (.error (.notFound guid), D)
  | some _ => (.ok (), { D with defaultServer := some guid })

def clearDefaultServer (D : Document) : Document :=
  { D with defaultServer := none }

/-- Answers one request. -/
def perform (D : Document) : Request → Except CredentialError Reply × Document
  | .list => (.ok (.credentials D.list), D)
  | .get guid => ((D.get guid).map .credential, D)
  | .set random a => (D.set (Guid.ofRandom random) { toAttributes := a }).map (·.map .credential) id
  | .forceSet random a =>
    (D.forceSet (Guid.ofRandom random) { toAttributes := a }).map (·.map .credential) id
  | .delete guid => (D.delete guid).map (·.map fun _ => .done) id
  | .reset => (.ok .done, {})
  | .defaultServer => (.ok (.preferred D.preferred), D)
  | .setDefaultServer guid => (D.setDefaultServer guid).map (·.map fun _ => .done) id
  | .clearDefaultServer => (.ok .done, D.clearDefaultServer)

/-- What a new credential is held against. -/
theorem set_cases (D : Document) (fresh : String) (details : Details) :
    (∃ e, D.set fresh details = (.error e, D)) ∨
      ∃ c, details.toCredential fresh = .ok c ∧ (∀ x ∈ D.list, x.name ≠ c.name) ∧
        (∀ x ∈ D.list, x.guid ≠ c.guid) ∧ D.set fresh details = (.ok c, D.put c) := by
  rw [set]
  -- the checks, in the order in which they are made
  cases hd : details.toCredential fresh with
  | error e => exact .inl ⟨e, rfl⟩
  | ok c =>
    dsimp only
    cases hcheck : Credential.checkAll D.list c with
    | error e => exact .inl ⟨e, rfl⟩
    | ok u =>
      dsimp only
      split
      · exact .inl ⟨_, rfl⟩
      · rename_i hany
        exact .inr ⟨c, rfl, fun x hx => (Credential.checkAll_eq_ok_iff.1 hcheck x hx).1,
          by simpa using hany, rfl⟩

theorem readsBack_successor (D : Document) {candidate : Credential} (h : candidate.ReadsBack) :
    (D.successor candidate).ReadsBack := by
  rw [successor]
  split
  · split
    · exact h
    · exact h.with_guid _
  · exact h

end Document

/-! ## Loading and saving -/

/-- The file at a path tells a document. -/
def Loads (path : String) (d : Disk) (D : Document) : Prop :=
  (load path).Yields d (.ok D) d

/-- An operation fails at the disk, or answers and leaves a file that tells a document; where the
answer is an error, it leaves the disk as it is. -/
def Leaves {α : Type} (path : String) (x : Op Disk α) (d : Disk)
    (outcome : Except CredentialError α × Document) : Prop :=
  (∃ e d', x.Yields d (.error (.io e)) d') ∨
    ∃ d', x.Yields d outcome.1 d' ∧ Loads path d' outcome.2 ∧ ∀ e, outcome.1 = .error e → d' = d

variable {path : String} {d d' : Disk} {D : Document}

/-- What is told of what was read. -/
def told (path : String) : Except IoError String → Except CredentialError Document
  | .error .notFound => .ok {}
  | .error e => .error (loadError path e)
  | .ok text => Document.load path text

/-- Loading changes nothing and depends on the text alone. -/
theorem yields_load (path : String) (d : Disk) :
    (load path).Yields d (told path (d.readText path)) d := by
  refine (yields_state d).bind (Yields.bind (yields_pure _ d) ?_)
  dsimp only
  -- of all errors, only that of a file that is not there is none
  generalize d.readText path = text
  cases text with
  | ok text => exact yields_ofExcept _ d
  | error e =>
    cases e with
    | notFound => exact yields_pure _ d
    | _ => exact yields_throw _ d

theorem loads_iff : Loads path d D ↔ told path (d.readText path) = .ok D :=
  ⟨fun h => ((yields_load path d).unique h).1, fun h => by
    rw [Loads, ← h]
    exact yields_load path d⟩

theorem isUnreadable_of_told {text : Except IoError String} {e : CredentialError}
    (h : told path text = .error e) : e.isUnreadable = true := by
  rw [told.eq_def] at h
  split at h
  · cases h
  · cases h
    rfl
  · rename_i text
    rw [Document.load] at h
    cases hparse : Document.parse? text with
    | none =>
      rw [hparse] at h
      cases h
      rfl
    | some raw =>
      rw [hparse] at h
      cases hcheck : raw.checkVersions with
      | ok u =>
        simp only [hcheck] at h
        cases h
      | error e' =>
        simp only [hcheck] at h
        cases h
        obtain ⟨entry, -, hversion⟩ := exists_of_forM_error hcheck
        exact isUnreadable_of_checkVersion hversion

theorem Loads.unique {D' : Document} (h : Loads path d D) (h' : Loads path d D') : D = D' := by
  cases (Yields.unique h h').1
  rfl

/-- A file that is not there is an empty document. -/
theorem loads_of_notFound (h : d.readText path = .error .notFound) : Loads path d {} := by
  rw [loads_iff, h]
  rfl

theorem loads_of_readText (h : d.readText path = .ok D.write) (hD : D.IsSettled) :
    Loads path d D := by
  rw [loads_iff, h]
  show Document.load path D.write = .ok D
  rw [Document.load_write hD.fits, hD.checkVersions_eq]
  show Except.ok D.normalized = .ok D
  rw [hD.normalized_eq]

theorem isSettled_of_told {text : Except IoError String} (h : told path text = .ok D) :
    D.IsSettled := by
  rw [told.eq_def] at h
  split at h
  · cases h
    exact Document.isSettled_empty
  · cases h
  · exact Document.isSettled_of_load h

theorem Loads.isSettled (h : Loads path d D) : D.IsSettled :=
  isSettled_of_told (loads_iff.1 h)

theorem leaves_of_yields {α : Type} {x : Op Disk α} {r : Except CredentialError α}
    (hx : x.Yields d r d) (h : Loads path d D) : Leaves path x d (r, D) :=
  .inr ⟨d, hx, h, fun _ _ => rfl⟩

/-- After a write, the file tells what was written. -/
theorem leaves_save (h : D.IsSettled) (d : Disk) : Leaves path (save path D) d (.ok (), D) := by
  rcases save_cases path D d with hio | ⟨d', hsave, hread⟩
  · exact .inl hio
  · exact .inr ⟨d', hsave, loads_of_readText hread h, nofun⟩

namespace Leaves

variable {α β : Type} {x : Op Disk α} {f : α → Op Disk β} {a : α} {b : β}
  {outcome : Except CredentialError α × Document}

/-- What goes on as the rest of an operation does. -/
theorem of_rest {y : Op Disk α} (h : ∀ {r d'}, y.Yields d r d' → x.Yields d r d')
    (hy : Leaves path y d outcome) : Leaves path x d outcome := by
  rcases hy with ⟨e, d', hio⟩ | ⟨d', hok, hloads, herror⟩
  · exact .inl ⟨e, d', h hio⟩
  · exact .inr ⟨d', h hok, hloads, herror⟩

/-- The answer of an operation, changed. -/
theorem map (hx : Leaves path x d outcome) (f : α → β) :
    Leaves path (f <$> x) d (outcome.map (·.map f) id) := by
  rcases hx with ⟨e, d', hio⟩ | ⟨d', hok, hloads, herror⟩
  · exact .inl ⟨e, d', hio.map_error f⟩
  · obtain ⟨r, D⟩ := outcome
    cases r with
    | ok a => exact .inr ⟨d', hok.map f, hloads, nofun⟩
    | error e => exact .inr ⟨d', hok.map_error f, hloads, fun _ _ => herror e rfl⟩

/-- An operation that did not fail at the disk is told by its function. -/
theorem of_yields {r : Except CredentialError α} (h : Leaves path x d outcome)
    (hx : x.Yields d r d') (hr : ∀ e, r ≠ .error (.io e)) :
    outcome.1 = r ∧ Loads path d' outcome.2 ∧ ∀ e, r = .error e → d' = d := by
  rcases h with ⟨e, d'', hio⟩ | ⟨d'', hok, hloads, herror⟩
  · exact absurd (hx.unique hio).1 (hr e)
  · obtain ⟨rfl, rfl⟩ := hok.unique hx
    exact ⟨rfl, hloads, herror⟩

end Leaves

/-- An operation does with the file what its function does with the document: it stops where that
refuses, and else saves what that leaves. -/
inductive Enacts {α : Type} (path : String) (x : Op Disk α) (d : Disk) (D : Document) :
    Except CredentialError α × Document → Prop where
  | refuses (e : CredentialError) (h : x.Yields d (.error e) d) : Enacts path x d D (.error e, D)
  | saves (a : α) (E : Document) (hsettled : E.IsSettled)
    (h : ∀ {r d'}, (save path E).Yields d r d' → x.Yields d (r.map fun _ => a) d') :
    Enacts path x d D (.ok a, E)

namespace Enacts

variable {α : Type} {x : Op Disk α} {outcome : Except CredentialError α × Document}
  {E : Document}

/-- What goes on as the rest of an operation does. -/
theorem of_rest {y : Op Disk α} (h : ∀ {r d'}, y.Yields d r d' → x.Yields d r d')
    (hy : Enacts path y d D outcome) : Enacts path x d D outcome := by
  cases hy with
  | refuses e hyields => exact .refuses e (h hyields)
  | saves a E hsettled hsave => exact .saves a E hsettled fun hyields => h (hsave hyields)

theorem save (hsettled : E.IsSettled) : Enacts path (FileStore.save path E) d D (.ok (), E) := by
  refine .saves () E hsettled fun {r d'} h => ?_
  cases r <;> exact h

/-- What is answered after a save. -/
theorem save_bind (hsettled : E.IsSettled) (a : α) :
    Enacts path (FileStore.save path E >>= fun _ => pure a) d D (.ok a, E) := by
  refine .saves a E hsettled fun {r d'} h => ?_
  cases r with
  | error e => exact h.bind_error
  | ok u => exact h.bind (yields_pure a d')

theorem leaves (hx : Enacts path x d D outcome) (h : Loads path d D) : Leaves path x d outcome := by
  cases hx with
  | refuses e hyields => exact leaves_of_yields hyields h
  | saves a E hsettled hsave =>
    rcases leaves_save hsettled d with ⟨e, d', hio⟩ | ⟨d', hok, hloads, -⟩
    · exact .inl ⟨e, d', hsave hio⟩
    · exact .inr ⟨d', hsave hok, hloads, nofun⟩

end Enacts

/-! ## Operations -/

/-- Listing depends on what is told, and changes nothing. -/
theorem yields_list_told (path : String) (d : Disk) :
    (list path).Yields d ((told path (d.readText path)).map Document.list) d := by
  have hload := yields_load path d
  cases htold : told path (d.readText path) with
  | error e =>
    rw [htold] at hload
    exact hload.bind_error
  | ok D =>
    rw [htold] at hload
    exact hload.bind (yields_pure _ d)

section Operations

variable (h : Loads path d D)

include h

theorem yields_list_of_loads : (list path).Yields d (.ok D.list) d :=
  h.bind (yields_pure _ d)

theorem yields_get_of_loads (guid : String) : (get path guid).Yields d (D.get guid) d := by
  refine h.bind ?_
  rw [Document.get]
  cases D.find? guid with
  | none => exact yields_throw _ d
  | some c => exact yields_pure _ d

theorem yields_defaultServer_of_loads : (defaultServer path).Yields d (.ok D.preferred) d :=
  h.bind (yields_pure _ d)

theorem enacts_set (fresh : String) (details : Details) :
    Enacts path (set path fresh details) d D (D.set fresh details) := by
  refine .of_rest (fun hrest => h.bind hrest) ?_
  rw [Document.set]
  -- the checks, in the order in which they are made
  cases hd : details.toCredential fresh with
  | error e => exact .refuses e (.bind_error ⟨rfl, rfl⟩)
  | ok c =>
    refine .of_rest (fun hrest => .bind ⟨rfl, rfl⟩ hrest) ?_
    dsimp only
    cases hcheck : Credential.checkAll D.list c with
    | error e => exact .refuses e (.bind_error ⟨rfl, rfl⟩)
    | ok u =>
      refine .of_rest (fun hrest => .bind ⟨rfl, rfl⟩ hrest) ?_
      dsimp only
      by_cases hany : D.list.any (·.guid == c.guid) = true
      · rw [if_pos hany, if_pos hany]
        exact .refuses _ (yields_throw _ d)
      · rw [if_neg hany, if_neg hany]
        exact .save_bind (h.isSettled.put (Details.readsBack_of_toCredential hd)) c

theorem enacts_forceSet (fresh : String) (details : Details) :
    Enacts path (forceSet path fresh details) d D (D.forceSet fresh details) := by
  refine .of_rest (fun hrest => h.bind hrest) ?_
  rw [Document.forceSet]
  cases hd : details.toCredential fresh with
  | error e => exact .refuses e (.bind_error ⟨rfl, rfl⟩)
  | ok candidate =>
    refine .of_rest (fun hrest => .bind ⟨rfl, rfl⟩ (.bind (yields_forM_warn _ d) hrest)) ?_
    have hback := D.readsBack_successor (Details.readsBack_of_toCredential hd)
    exact .save_bind (h.isSettled.put hback) _

theorem enacts_delete (guid : String) :
    Enacts path (delete path guid) d D (D.delete guid) := by
  refine .of_rest (fun hrest => h.bind hrest) ?_
  rw [Document.delete]
  cases D.find? guid with
  | none => exact .refuses _ (yields_throw _ d)
  | some c => exact .save (h.isSettled.erase c.name _)

theorem enacts_setDefaultServer (guid : String) :
    Enacts path (setDefaultServer path guid) d D (D.setDefaultServer guid) := by
  refine .of_rest (fun hrest => h.bind hrest) ?_
  rw [Document.setDefaultServer]
  cases D.find? guid with
  | none => exact .refuses _ (yields_throw _ d)
  | some c => exact .save (h.isSettled.prefer _)

theorem leaves_set (fresh : String) (details : Details) :
    Leaves path (set path fresh details) d (D.set fresh details) :=
  (enacts_set h fresh details).leaves h

theorem leaves_forceSet (fresh : String) (details : Details) :
    Leaves path (forceSet path fresh details) d (D.forceSet fresh details) :=
  (enacts_forceSet h fresh details).leaves h

theorem leaves_delete (guid : String) : Leaves path (delete path guid) d (D.delete guid) :=
  (enacts_delete h guid).leaves h

theorem leaves_setDefaultServer (guid : String) :
    Leaves path (setDefaultServer path guid) d (D.setDefaultServer guid) :=
  (enacts_setDefaultServer h guid).leaves h

theorem leaves_clearDefaultServer :
    Leaves path (clearDefaultServer path) d (.ok (), D.clearDefaultServer) := by
  refine .of_rest (fun hrest => h.bind hrest) ?_
  by_cases hsome : D.defaultServer.isSome = true
  · rw [if_pos hsome]
    exact leaves_save (h.isSettled.prefer none) d
  · -- without a preference nothing is written
    have hsame : D.clearDefaultServer = D := by
      obtain ⟨preferred, credentials⟩ := D
      cases preferred with
      | none => rfl
      | some guid => exact absurd rfl hsome
    rw [if_neg hsome, hsame]
    exact leaves_of_yields (yields_pure () d) h

end Operations

/-- What a reset answers after the copy that it has tried to make. -/
def outcomeOf : Except CredentialError (Option String) → ResetOutcome
  | .ok backup => { backup }
  | .error e => { backupError := some e }

/-- A reset tries to copy the file and then empties it, whatever came of the copy; it answers if the
file has been emptied. -/
theorem reset_of_save {path : String} {d d' : Disk} {r : Except CredentialError Unit}
    (hsave : (save path {}).Yields (backUp path d).state r d') :
    (reset path).Yields d (r.map fun _ => outcomeOf (backUp path d).answer) d' := by
  -- what is reported last does not change the answer
  have hrest : ∀ {outcome : ResetOutcome} {last : Op Disk ResetOutcome},
      (∀ d', last.Yields d' (.ok outcome) d') →
      (save path {} >>= fun _ => warn .fileReset >>= fun _ => last).Yields (backUp path d).state
        (r.map fun _ => outcome) d' := by
    intro outcome last hlast
    cases r with
    | error e => exact hsave.bind_error
    | ok u => exact hsave.bind ((yields_warn _ d').bind (hlast d'))
  have hbackup := (yields_self (backUp path) d).attempt
  cases hanswer : (backUp path d).answer with
  | ok backup =>
    rw [hanswer] at hbackup
    refine hbackup.bind ((yields_pure _ _).bind (hrest fun d' => ?_))
    cases backup with
    | none => exact yields_pure _ d'
    | some copy => exact (yields_warn _ d').bind (yields_pure _ d')
  | error e =>
    rw [hanswer] at hbackup
    exact hbackup.bind ((yields_warn _ _).bind
      ((yields_pure _ _).bind (hrest fun d' => yields_pure _ d')))

theorem exists_reset_of_save (path : String) (d : Disk) :
    ∃ outcome, ∀ {r d'}, (save path {}).Yields (backUp path d).state r d' →
      (reset path).Yields d (r.map fun _ => outcome) d' :=
  ⟨_, reset_of_save⟩

/-- Whatever the file holds, a reset that does not fail leaves an empty document. -/
theorem leaves_reset (path : String) (d : Disk) :
    ∃ outcome, Leaves path (reset path) d (.ok outcome, {}) := by
  obtain ⟨outcome, hreset⟩ := exists_reset_of_save path d
  refine ⟨outcome, ?_⟩
  rcases leaves_save Document.isSettled_empty (backUp path d).state with
    ⟨e, d', hio⟩ | ⟨d', hok, hloads, -⟩
  · exact .inl ⟨e, d', hreset hio⟩
  · exact .inr ⟨d', hreset hok, hloads, nofun⟩

/-- Every request is answered as by the document. -/
theorem leaves_perform (h : Loads path d D) (r : Request) :
    Leaves path ((service path).perform r) d (D.perform r) := by
  cases r with
  | list => exact leaves_of_yields ((yields_list_of_loads h).map _) h
  | get guid => exact (leaves_of_yields (yields_get_of_loads h guid) h).map _
  | set random a => exact (leaves_set h _ _).map _
  | forceSet random a => exact (leaves_forceSet h _ _).map _
  | delete guid => exact (leaves_delete h guid).map _
  | reset =>
    obtain ⟨outcome, hreset⟩ := leaves_reset path d
    exact hreset.map fun _ => Reply.done
  | defaultServer => exact leaves_of_yields ((yields_defaultServer_of_loads h).map _) h
  | setDefaultServer guid => exact (leaves_setDefaultServer h guid).map _
  | clearDefaultServer => exact (leaves_clearDefaultServer h).map _

end CredentialStore.FileStore
