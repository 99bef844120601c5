import CredentialStore.Proofs.Disk.Directories
import CredentialStore.Proofs.Disk.Replacing
import CredentialStore.Proofs.FileStore.Documents

/-!
# What a call saves

A call on the file at a path stops before it has written anything, or it saves one document. Which
of the two it does, and which document it saves, can be told from what the file tells; all that
comes before the save is the directories that opening makes and the copy that a reset makes.

Main statements:

* `comesTo` — every call stops or saves;
* `replacing_of_save` — how far a save gets and what it leaves.
-/

namespace CredentialStore.FileStore

open Op

variable {path : String} {d d' : Disk} {D : Document}

/-! ## Calls -/

/-- The operations that write the file. -/
inductive Write where
  | set (fresh : String) (details : Details)
  | forceSet (fresh : String) (details : Details)
  | delete (guid : String)
  | setDefaultServer (guid : String)
  | clearDefaultServer
  | reset

/-- The operation on the file at a path. -/
def Write.run (path : String) : Write → Op Disk Unit
  | .set fresh details => discard (FileStore.set path fresh details)
  | .forceSet fresh details => discard (FileStore.forceSet path fresh details)
  | .delete guid => FileStore.delete path guid
  | .setDefaultServer guid => FileStore.setDefaultServer path guid
  | .clearDefaultServer => FileStore.clearDefaultServer path
  | .reset => discard (FileStore.reset path)

/-- What is done with the file at a path: it is opened, read or written. -/
inductive Call where
  | setUp
  | list
  | get (guid : String)
  | defaultServer
  | write (w : Write)

/-- The operation on the file at a path. -/
def Call.run (path : String) : Call → Op Disk Unit
  | .setUp => FileStore.setUp path
  | .list => discard (FileStore.list path)
  | .get guid => discard (FileStore.get path guid)
  | .defaultServer => discard (FileStore.defaultServer path)
  | .write w => w.run path

/-- The document that an operation on documents leaves, unless it is refused. -/
def accepted {α : Type} : Except CredentialError α × Document → Option Document
  | (.ok _, D) => some D
  | (.error _, _) => none

/-- The document that an operation saves where the file tells a document. -/
def Write.saved (D : Document) : Write → Option Document
  | .set fresh details => accepted (D.set fresh details)
  | .forceSet fresh details => accepted (D.forceSet fresh details)
  | .delete guid => accepted (D.delete guid)
  | .setDefaultServer guid => accepted (D.setDefaultServer guid)
  | .clearDefaultServer => if D.defaultServer.isSome then some D.clearDefaultServer else none
  | .reset => some {}

/-- The document that an operation saves where the file tells none: a reset does not look. -/
def Write.savedUnread : Write → Option Document
  | .reset => some {}
  | _ => none

/-- The document that an operation saves, if it gets that far. -/
def Write.saves (path : String) (d : Disk) (w : Write) : Option Document :=
  match told path (d.readText path) with
  | .ok D => w.saved D
  | .error _ => w.savedUnread

/-- The directories that opening makes, and whether there are all of them. -/
def makeAround (path : String) (d : Disk) : Except IoError Unit × Disk :=
  match Path.parent? path with
  | none => (.ok (), d)
  | some directory => d.createDirectories directory

/-- The document that a call saves, if it gets that far. -/
def Call.saves (path : String) (d : Disk) : Call → Option Document
  | .setUp =>
    if d.pathExists path then none
    else match (makeAround path d).1 with
      | .ok () => some {}
      | .error _ => none
  | .write w => w.saves path d
  | _ => none

/-- The disk on which a call looks for the paths that it writes to: opening makes the directories
around the file first. -/
def Call.prepared (path : String) (d : Disk) : Call → Disk
  | .setUp => if d.pathExists path then d else (makeAround path d).2
  | _ => d

/-- The path of the copy that a call makes. -/
def Call.copies (path : String) (d : Disk) : Call → List String
  | .write .reset => [backupPath path d.today]
  | _ => []

/-- Only a reset makes a copy. -/
theorem eq_of_mem_copies {c : Call} {other : String} (h : other ∈ c.copies path d) :
    c = .write .reset ∧ other = backupPath path d.today := by
  unfold Call.copies at h
  split at h
  · exact ⟨rfl, List.mem_singleton.1 h⟩
  · exact absurd h List.not_mem_nil

/-- The calls that write the file where they succeed: opening where there is none, and all
operations that change what it tells. -/
def Call.Writes (path : String) (d : Disk) : Call → Prop
  | .setUp => d.pathExists path = false
  | .write .clearDefaultServer => ∃ D, Loads path d D ∧ D.defaultServer.isSome = true
  | .write _ => True
  | _ => False

/-! ## Stopping or saving -/

/-- An operation stops with an error and leaves the disk, or saves a document and then answers. -/
def StopsOrSaves {α : Type} (path : String) (x : Op Disk α) (d : Disk) (saved : Option Document) :
    Prop :=
  (saved = none ∧ ∃ e, x.Yields d (.error e) d) ∨
    ∃ D a, saved = some D ∧
      ∀ {r d'}, (save path D).Yields d r d' → x.Yields d (r.map fun _ => a) d'

namespace StopsOrSaves

variable {α β : Type} {x : Op Disk α} {saved : Option Document}

theorem of_enacts {outcome : Except CredentialError α × Document}
    (h : Enacts path x d D outcome) : StopsOrSaves path x d (accepted outcome) := by
  cases h with
  | refuses e hyields => exact .inl ⟨rfl, e, hyields⟩
  | saves a E _ hsave => exact .inr ⟨E, a, rfl, hsave⟩

theorem of_error {e : CredentialError} (h : x.Yields d (.error e) d) : StopsOrSaves path x d none :=
  .inl ⟨rfl, e, h⟩

theorem save (path : String) (D : Document) (d : Disk) :
    StopsOrSaves path (FileStore.save path D) d (some D) := by
  refine .inr ⟨D, (), rfl, fun {r d'} h => ?_⟩
  cases r <;> exact h

/-- What goes on as the rest of an operation does. -/
theorem of_rest {y : Op Disk α} (h : ∀ {r d'}, y.Yields d r d' → x.Yields d r d')
    (hy : StopsOrSaves path y d saved) : StopsOrSaves path x d saved := by
  rcases hy with ⟨hnone, e, he⟩ | ⟨D, a, hsome, hsave⟩
  · exact .inl ⟨hnone, e, h he⟩
  · exact .inr ⟨D, a, hsome, fun hyields => h (hsave hyields)⟩

theorem discard (h : StopsOrSaves path x d saved) :
    StopsOrSaves path (Functor.discard x) d saved := by
  rcases h with ⟨hnone, e, he⟩ | ⟨D, a, hsome, hsave⟩
  · exact .inl ⟨hnone, e, he.map_error _⟩
  · refine .inr ⟨D, (), hsome, fun {r d'} hyields => ?_⟩
    have hx := hsave hyields
    cases r with
    | error e => exact hx.map_error _
    | ok u => exact hx.discard

end StopsOrSaves

/-- An operation that reads the file first stops where that tells no document. -/
theorem stopsOrSaves_of_load {x : Op Disk Unit} {w : Write} (hunread : w.savedUnread = none)
    (herror : ∀ {e}, (load path).Yields d (.error e) d → x.Yields d (.error e) d)
    (hok : ∀ {D}, Loads path d D → StopsOrSaves path x d (w.saved D)) :
    StopsOrSaves path x d (w.saves path d) := by
  have hload := yields_load path d
  rw [Write.saves]
  cases htold : told path (d.readText path) with
  | error e =>
    rw [htold] at hload
    dsimp only
    rw [hunread]
    exact .of_error (herror hload)
  | ok D => exact hok (loads_iff.2 htold)

/-! ## What calls come to -/

/-- What a call comes to: it stops, and then it has made directories at most and has not written the
file, or it saves, after a reset has made its copy. -/
inductive Call.ComesTo (path : String) (d : Disk) (c : Call) : Prop where
  | stops (r : Except CredentialError Unit) (hnone : c.saves path d = none)
    (hrun : (c.run path).Yields d r (c.prepared path d)) (hok : r = .ok () → ¬ c.Writes path d)
  | saves (D : Document) (d₁ d' : Disk) (r q : Except CredentialError Unit)
    (hsome : c.saves path d = some D)
    (hcopy : Disk.OnlyAt (c.copies path d) (c.prepared path d) d₁)
    (hsave : (save path D).Yields d₁ r d') (hrun : (c.run path).Yields d q d')
    (hok : q = .ok () ↔ r = .ok ())

/-- An operation that makes no directories and no copy. -/
theorem comesTo_of_stopsOrSaves {w : Write} (hcopies : (Call.write w).copies path d = [])
    (h : StopsOrSaves path (w.run path) d (w.saves path d)) : (Call.write w).ComesTo path d := by
  rcases h with ⟨hnone, e, he⟩ | ⟨D, a, hsome, hsave⟩
  · exact .stops (.error e) hnone he fun hok => nomatch hok
  · have hself := yields_self (save path D) d
    refine .saves D d _ _ _ hsome ?_ hself (hsave hself) ?_
    · rw [hcopies]
      exact .refl [] d
    · cases (save path D d).answer with
      | error e => exact ⟨fun hok => (nomatch hok), fun hok => (nomatch hok)⟩
      | ok u => exact ⟨fun _ => rfl, fun _ => rfl⟩

theorem comesTo_clearDefaultServer (path : String) (d : Disk) :
    (Call.write .clearDefaultServer).ComesTo path d := by
  have hload := yields_load path d
  cases htold : told path (d.readText path) with
  | error e =>
    rw [htold] at hload
    have hnone : Write.saves path d .clearDefaultServer = none := by
      rw [Write.saves, htold]
      rfl
    exact .stops (.error e) hnone hload.bind_error fun hok => nomatch hok
  | ok D =>
    rw [htold] at hload
    -- the one operation that may succeed without a save
    by_cases hsome : D.defaultServer.isSome = true
    · refine comesTo_of_stopsOrSaves rfl (stopsOrSaves_of_load rfl (fun h => h.bind_error) ?_)
      intro D' hD'
      obtain rfl : D = D' := Loads.unique hload hD'
      refine .of_rest (fun hrest => hload.bind hrest) ?_
      rw [if_pos hsome, Write.saved, if_pos hsome]
      exact .save path _ d
    · -- without a preference nothing is written
      refine .stops (.ok ()) ?_ (hload.bind ?_) fun _ ⟨D', hD', hsome'⟩ => hsome ?_
      · show Write.saves path d .clearDefaultServer = none
        rw [Write.saves, htold]
        exact if_neg hsome
      · rw [if_neg hsome]
        exact yields_pure () d
      · rw [Loads.unique hload hD']
        exact hsome'

/-- A copy is made at the end of its path alone. -/
theorem onlyAt_backUp {paths : List String} (d : Disk) (hmem : backupPath path d.today ∈ paths) :
    Disk.OnlyAt paths d (backUp path d).state := by
  rw [backUp, bind_state]
  split
  · exact .refl _ d
  · have hcopy : Disk.OnlyAt paths d (d.copyFile path (backupPath path d.today)).2 :=
      Disk.onlyAt_copyFile hmem d path
    dsimp only
    rw [bind_setState]
    cases (d.copyFile path (backupPath path d.today)).1 <;> exact hcopy

theorem comesTo_reset (path : String) (d : Disk) : (Call.write .reset).ComesTo path d := by
  obtain ⟨outcome, hreset⟩ := exists_reset_of_save path d
  -- the save starts on the disk that the copy leaves, whatever came of that
  have hsave := yields_self (save path {}) (backUp path d).state
  have hsome : Write.saves path d .reset = some {} := by
    rw [Write.saves]
    split <;> rfl
  have hcopy : Disk.OnlyAt [backupPath path d.today] d (backUp path d).state :=
    onlyAt_backUp d (by simp)
  cases hanswer : (save path {} (backUp path d).state).answer with
  | error e =>
    rw [hanswer] at hsave
    exact .saves {} _ _ _ (.error e) hsome hcopy hsave ((hreset hsave).map_error _)
      ⟨fun hok => (nomatch hok), fun hok => (nomatch hok)⟩
  | ok u =>
    rw [hanswer] at hsave
    exact .saves {} _ _ _ (.ok ()) hsome hcopy hsave (hreset hsave).discard
      ⟨fun _ => rfl, fun _ => rfl⟩

theorem exists_saveEmpty {r : Except CredentialError Unit} (h : (save path {}).Yields d r d') :
    ∃ q, (saveEmpty path).Yields d q d' ∧ (q = .ok () ↔ r = .ok ()) := by
  cases r with
  | error e =>
    exact ⟨.error (.load e.message), h.attempt.bind (yields_throw _ d'),
      fun hok => (nomatch hok), fun hok => (nomatch hok)⟩
  | ok u => exact ⟨.ok (), h.attempt.bind (yields_pure () d'), fun _ => rfl, fun _ => rfl⟩

/-- A file that is there is read only. -/
theorem exists_setUp_of_pathExists (h : d.pathExists path = true) :
    ∃ q, (setUp path).Yields d q d := by
  refine (yields_state d).exists_bind ?_
  rw [if_pos h]
  refine (yields_load path d).attempt.exists_bind ?_
  -- whatever it tells, what is left to do is to answer or to report the error
  split
  · exact ⟨_, yields_pure () d⟩
  · exact ⟨_, yields_throw _ d⟩
  · exact ⟨_, yields_throw _ d⟩

/-- Where there is no file, the directories around it are made, and if there are all of them an
empty document is saved. -/
theorem exists_setUp_of_not_pathExists (h : d.pathExists path = false) :
    (∃ e, (makeAround path d).1 = .error e ∧
        (setUp path).Yields d (.error (loadError path e)) (makeAround path d).2) ∨
      (makeAround path d).1 = .ok () ∧
        ∀ {r d'}, (save path {}).Yields (makeAround path d).2 r d' →
          ∃ q, (setUp path).Yields d q d' ∧ (q = .ok () ↔ r = .ok ()) := by
  -- both kinds of paths, with and without a directory around them, start like this
  have hstart : ∀ {x y : Op Disk Unit} {q : Except CredentialError Unit} {d' : Disk},
      y.Yields d q d' → (state >>= fun d => if d.pathExists path then x else y).Yields d q d' := by
    intro x y q d' hy
    refine (yields_state d).bind ?_
    rw [if_neg (by simp [h])]
    exact hy
  rw [makeAround, setUp]
  cases Path.parent? path with
  | none =>
    refine .inr ⟨rfl, fun {r d'} hsave => ?_⟩
    obtain ⟨q, hq, hok⟩ := exists_saveEmpty hsave
    exact ⟨q, hstart hq, hok⟩
  | some directory =>
    dsimp only
    cases hcreate : d.createDirectories directory with
    | mk made d₁ =>
      cases made with
      | error e =>
        refine .inl ⟨e, rfl, hstart ((yields_state d).bind ?_)⟩
        rw [hcreate]
        exact (yields_setState d d₁).bind (Yields.bind_error (yields_throw _ d₁))
      | ok u =>
        refine .inr ⟨rfl, fun {r d'} hsave => ?_⟩
        obtain ⟨q, hq, hok⟩ := exists_saveEmpty hsave
        refine ⟨q, hstart ((yields_state d).bind ?_), hok⟩
        rw [hcreate]
        exact (yields_setState d d₁).bind hq

theorem comesTo_setUp (path : String) (d : Disk) : Call.setUp.ComesTo path d := by
  by_cases hexists : d.pathExists path = true
  · have hnone : Call.setUp.saves path d = none := if_pos hexists
    have hprepared : Call.setUp.prepared path d = d := if_pos hexists
    obtain ⟨q, hq⟩ := exists_setUp_of_pathExists hexists
    refine .stops q hnone ?_ fun _ hwrites => ?_
    · rw [hprepared]
      exact hq
    · exact Bool.false_ne_true (hwrites.symm.trans hexists)
  · rw [Bool.not_eq_true] at hexists
    have hprepared : Call.setUp.prepared path d = (makeAround path d).2 :=
      if_neg (by simp [hexists])
    have hsaves : Call.setUp.saves path d =
        match (makeAround path d).1 with
        | .ok () => some {}
        | .error _ => none := if_neg (by simp [hexists])
    rcases exists_setUp_of_not_pathExists hexists with ⟨e, hmade, hq⟩ | ⟨hmade, hq⟩
    · rw [hmade] at hsaves
      refine .stops (.error (loadError path e)) hsaves ?_ fun hok => nomatch hok
      rw [hprepared]
      exact hq
    · rw [hmade] at hsaves
      -- the new directories are there before the save starts
      have hself := yields_self (save path {}) (makeAround path d).2
      obtain ⟨q, hrun, hok⟩ := hq hself
      refine .saves {} _ _ _ q hsaves ?_ hself hrun hok
      rw [hprepared]
      exact .refl _ _

/-- What only looks at the document leaves the disk. -/
theorem exists_discard_of_load {α : Type} {f : Document → Op Disk α}
    (hf : ∀ D, ∃ r, (f D).Yields d r d) : ∃ r, (discard (load path >>= f)).Yields d r d := by
  have hload := yields_load path d
  obtain ⟨r, hr⟩ : ∃ r, (load path >>= f).Yields d r d := by
    cases htold : told path (d.readText path) with
    | error e =>
      rw [htold] at hload
      exact ⟨.error e, hload.bind_error⟩
    | ok D =>
      rw [htold] at hload
      exact hload.exists_bind (hf D)
  cases r with
  | error e => exact ⟨.error e, hr.map_error _⟩
  | ok a => exact ⟨.ok (), hr.discard⟩

/-- Every call stops before it has written the file, or saves a document. -/
theorem comesTo (path : String) (d : Disk) (c : Call) : c.ComesTo path d := by
  cases c with
  | setUp => exact comesTo_setUp path d
  | list =>
    have hread : ∃ r, (discard (list path)).Yields d r d :=
      exists_discard_of_load fun D => ⟨_, yields_pure D.list d⟩
    obtain ⟨r, hr⟩ := hread
    exact .stops r rfl hr fun _ => id
  | get guid =>
    have hread : ∃ r, (discard (get path guid)).Yields d r d := by
      refine exists_discard_of_load fun D => ?_
      split
      · exact ⟨_, yields_pure _ d⟩
      · exact ⟨_, yields_throw _ d⟩
    obtain ⟨r, hr⟩ := hread
    exact .stops r rfl hr fun _ => id
  | defaultServer =>
    have hread : ∃ r, (discard (defaultServer path)).Yields d r d :=
      exists_discard_of_load fun D => ⟨_, yields_pure (D.defaultServer.bind D.find?) d⟩
    obtain ⟨r, hr⟩ := hread
    exact .stops r rfl hr fun _ => id
  | write w =>
    -- all but two operations read the file and make no copy
    cases w with
    | set fresh details =>
      refine comesTo_of_stopsOrSaves rfl (stopsOrSaves_of_load rfl (fun h => ?_) fun h => ?_)
      · exact h.bind_error.map_error _
      · exact (StopsOrSaves.of_enacts (enacts_set h fresh details)).discard
    | forceSet fresh details =>
      refine comesTo_of_stopsOrSaves rfl (stopsOrSaves_of_load rfl (fun h => ?_) fun h => ?_)
      · exact h.bind_error.map_error _
      · exact (StopsOrSaves.of_enacts (enacts_forceSet h fresh details)).discard
    | delete guid =>
      exact comesTo_of_stopsOrSaves rfl (stopsOrSaves_of_load rfl (fun h => h.bind_error)
        fun h => .of_enacts (enacts_delete h guid))
    | setDefaultServer guid =>
      exact comesTo_of_stopsOrSaves rfl (stopsOrSaves_of_load rfl (fun h => h.bind_error)
        fun h => .of_enacts (enacts_setDefaultServer h guid))
    | clearDefaultServer => exact comesTo_clearDefaultServer path d
    | reset => exact comesTo_reset path d

/-! ## The save -/

/-- How far a save gets, and what it leaves. -/
theorem replacing_of_save {r : Except CredentialError Unit} (h : (save path D).Yields d r d') :
    ∃ completed, Disk.Replacing (temporaryPath path) path (Text.utf8 D.write.toList) privateMode d
      completed d' ∧ (r = .ok () ↔ completed = true) := by
  have hfails : ∀ {e : CredentialError}, (Except.error e : Except CredentialError Unit) = .ok () ↔
      false = true := ⟨nofun, nofun⟩
  let write : Disk → Except IoError Unit × Disk :=
    (·.writeFile (temporaryPath path) (Text.utf8 D.write.toList) privateMode false)
  have hfirst : ∀ {q d₁}, write d = (q, d₁) → (change write).Yields d (q.mapError .io) d₁ :=
    yields_change
  rcases Disk.replacing_of_steps d (temporaryPath path) path (Text.utf8 D.write.toList)
      privateMode with ⟨e, d₁, hwrite, hleft⟩ | ⟨d₁, hwrite, hmove⟩
  · obtain ⟨rfl, rfl⟩ := h.unique (hfirst hwrite).bind_error
    exact ⟨false, hleft, hfails⟩
  · -- the document has been written, and what is left is the move
    have hrest := h.of_bind (hfirst hwrite)
    rcases hmove with ⟨e, hrename, hleft⟩ | ⟨d₂, hrename, hleft⟩
    · obtain ⟨rfl, rfl⟩ := hrest.unique (yields_change (r := .error e) (by rw [hrename]))
      exact ⟨false, hleft, hfails⟩
    · obtain ⟨rfl, rfl⟩ := hrest.unique (yields_change (r := .ok ()) (by rw [hrename]))
      exact ⟨true, hleft, fun _ => rfl, fun _ => rfl⟩

end CredentialStore.FileStore
