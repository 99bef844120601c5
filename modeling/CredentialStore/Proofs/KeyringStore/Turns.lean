import CredentialStore.KeyringStore.Legacy
import CredentialStore.Proofs.KeyringStore.Keys
import CredentialStore.Proofs.KeyringStore.Reads
import CredentialStore.Proofs.Migration.Cases
import CredentialStore.Proofs.Op.Respects
import CredentialStore.Proofs.Service.Run

/-!
# Turns of a keyring

What is asked of a keyring: a request, a write of a credential that may carry an identifier, a
migration of the legacy entry in the same secret store, or a single copy of a credential
from elsewhere. Every turn is put together from a few parts, so a relation of secret stores that
these parts respect is respected by every turn, and a property that the calls preserve is preserved
by every turn.

Main statements: `Admits.take` and `Stable.admits`.
-/

namespace CredentialStore.KeyringStore

open Op SecretStore

/-! ## Turns -/

/-- What is asked of a keyring, with the random bytes that identifiers are drawn from. -/
inductive Turn where
  | request (r : Request)
  /-- A credential is stored, with the identifier that its details carry, if they do. -/
  | set (random : List UInt8) (details : Details)
  | forceSet (random : List UInt8) (details : Details)
  /-- The legacy entry is migrated within the secret store. -/
  | migrate (random : Nat → List UInt8)
  /-- A credential is migrated from elsewhere. -/
  | copy (random : List UInt8) (c : Credential)

/-- What a turn is answered with, where it succeeds. -/
inductive Answer where
  | reply (r : Reply)
  | emptied (outcome : ResetOutcome)
  | report (report : MigrationReport)
  | copied

/-- Takes a turn. -/
def Turn.take : Turn → Op SecretStore Answer
  | .request .reset => Answer.emptied <$> service.reset
  | .request r => Answer.reply <$> service.perform r
  | .set random details =>
    (fun c => .reply (.credential c)) <$> service.set (Guid.ofRandom random) details
  | .forceSet random details =>
    (fun c => .reply (.credential c)) <$> service.forceSet (Guid.ofRandom random) details
  | .migrate random =>
    Answer.report <$> Migration.run LegacyStore.service service fun i => Guid.ofRandom (random i)
  | .copy random c => (fun _ => .copied) <$> Migration.copy service (Guid.ofRandom random) c

/-! ## Removals -/

/-- What a removal does before it looks at the preference. -/
def removeRecord (guid : String) : Op SecretStore Unit := do
  match ← read (credentialKey guid) with
  | none => throw (.notFound guid)
  | some text => removeEntry guid text

/-- Takes the preference back if it is for an identifier. -/
def forget (guid : String) : Op SecretStore Unit := do
  if (← defaultGuid) = some guid then discard (remove defaultKey)

theorem delete_eq (guid : String) : delete guid = removeRecord guid >>= fun _ => forget guid := by
  rw [removeRecord, bind_assoc]
  -- both go on alike, whatever text there is
  refine congrArg (read (credentialKey guid) >>= ·) (funext fun text? => ?_)
  cases text? <;> rfl

/-! ## Parts -/

section Parts

variable {C : ∀ α : Type, Op SecretStore α → Prop} (hC : Closed C)

include hC

/-- The index is one text. -/
theorem loadIndex_closed (h : C _ (read indexKey)) : C _ loadIndex := by
  refine hC.bind h fun text? => ?_
  cases text? with
  | none => exact hC.pure _
  | some text =>
    dsimp only
    cases Index.read? text with
    | none => exact hC.throw _
    | some index => exact hC.pure index

/-- The records are enumerated, or the index is read. -/
theorem guids_closed (hcan : C _ canList)
    (hkeys : C _ (Op.mapError asLoadError (keysFrom credentialStart)))
    (hindex : C _ (read indexKey)) : C _ guids := by
  refine hC.bind hcan fun canList => ?_
  cases canList with
  | true => exact hC.bind hkeys fun keys => hC.pure _
  | false => exact hC.bind (loadIndex_closed hC hindex) fun index => hC.pure _

/-- A credential is loaded from one text. -/
theorem load_closed {guid : String} (h : C _ (read (credentialKey guid))) : C _ (load guid) := by
  refine hC.bind h fun text? => ?_
  cases text? with
  | none => exact hC.pure none
  | some text => exact hC.map (hC.ofExcept _) some

/-- The index is written where it has something new, and otherwise only read. -/
theorem enter_closed {c : Credential} (hcan : C _ canList) (hindex : C _ (read indexKey))
    (hsave : ∀ index, C _ (saveIndex index)) : C _ (enter c) := by
  refine hC.bind hcan fun canList => ?_
  cases canList with
  | true => exact hC.pure ()
  | false =>
    refine hC.bind (loadIndex_closed hC hindex) fun index => ?_
    by_cases hentered : index.find? c.guid = some c.name
    · rw [if_pos hentered]
      exact hC.pure ()
    · rw [if_neg hentered]
      exact hsave _

end Parts

/-! ## Relations -/

variable {R : SecretStore → SecretStore → Prop}

/-- A reset enumerates and removes, and goes on without records where there is no enumerating. -/
theorem reset_respects (hguids : guids.Respects R)
    (hrecord : ∀ guid, (Functor.discard (remove (credentialKey guid))).Respects R)
    (hindex : (Functor.discard (remove indexKey)).Respects R)
    (hdefault : (Functor.discard (remove defaultKey)).Respects R) : reset.Respects R := by
  have hrest : ∀ found : List String, (do
      found.forM fun guid => discard (remove (credentialKey guid))
      discard (remove indexKey)
      discard (remove defaultKey)
      Op.warn (.keyringReset found.length)
      return {} : Op SecretStore ResetOutcome).Respects R := fun found =>
    (Respects.forM hrecord found).bind fun _ => hindex.bind fun _ => hdefault.bind fun _ =>
      (Respects.warn _).bind fun _ => .pure _
  refine hguids.attempt.bind fun r => ?_
  cases r with
  | ok gs => exact (Respects.pure gs).bind hrest
  | error e => exact (Respects.warn _).bind fun _ => (Respects.pure []).bind hrest

theorem legacyList_respects (h : (retrieve legacyKey).Respects R) :
    LegacyStore.list.Respects R := by
  have hload : LegacyStore.load.Respects R := by
    refine h.attempt.bind fun r => ?_
    cases r with
    | error e => exact .throw _
    | ok text? =>
      cases text? with
      | none => exact .pure _
      | some text =>
        dsimp only
        cases LegacyStore.read? text with
        | none => exact .throw _
        | some table => exact .pure table
  exact hload.bind fun table => .ofExcept _

/-- A relation that the parts of a reading operation respect. -/
structure AdmitsReads (R : SecretStore → SecretStore → Prop) : Prop where
  guids : guids.Respects R
  load : ∀ guid, (load guid).Respects R
  defaultGuid : defaultGuid.Respects R

namespace AdmitsReads

variable (h : AdmitsReads R)

include h

theorem loadEach (gs : List String) : (loadEach gs).Respects R := by
  -- on the identifiers; one without a record is passed over
  induction gs with
  | nil => exact .pure []
  | cons guid rest ih =>
    refine (h.load guid).bind fun c? => ?_
    cases c? with
    | none => exact (Respects.warn _).bind fun _ => ih
    | some c => exact ih.bind fun cs => .pure (c :: cs)

theorem loadAll : loadAll.Respects R :=
  h.guids.bind h.loadEach

theorem get (guid : String) : (get guid).Respects R := by
  refine (h.load guid).bind fun c? => ?_
  cases c? with
  | none => exact .throw _
  | some c => exact .pure c

theorem defaultServer : defaultServer.Respects R := by
  refine h.defaultGuid.bind fun guid? => ?_
  cases guid? with
  | none => exact .pure none
  | some guid => exact h.load guid

theorem setDefaultServer {guid : String} (hprefer : (put defaultKey guid).Respects R) :
    (setDefaultServer guid).Respects R := by
  refine (h.load guid).bind fun c? => ?_
  cases c? with
  | none => exact .throw _
  | some c => exact hprefer

end AdmitsReads

/-- A relation that the parts of a migration respect. -/
structure AdmitsCopies (R : SecretStore → SecretStore → Prop) : Prop where
  loadAll : loadAll.Respects R
  set : ∀ fresh details, (set fresh details).Respects R
  legacyList : LegacyStore.list.Respects R
  legacyReset : LegacyStore.reset.Respects R

namespace AdmitsCopies

variable (h : AdmitsCopies R)

include h

theorem copy (fresh : String) (c : Credential) : (Migration.copy service fresh c).Respects R := by
  refine (h.set fresh _).attempt.bind fun r => ?_
  cases r with
  | ok d => exact .pure ()
  | error e => exact (Respects.warn _).bind fun _ => .throw _

theorem copyAll (fresh : Nat → String) (present : List String) (i : Nat) (cs : List Credential)
    (report : MigrationReport) :
    (Migration.copyAll service fresh present i cs report).Respects R := by
  -- on the credentials that are left, each passed over or copied
  induction cs generalizing i report with
  | nil => exact .pure report
  | cons c cs ih =>
    rw [Migration.copyAll]
    by_cases hpresent : present.contains c.guid = true
    · rw [if_pos hpresent]
      exact ih _ _
    · rw [if_neg hpresent]
      exact (h.copy (fresh i) c).bind fun _ => ih _ _

theorem migrate (fresh : Nat → String) :
    (Migration.run LegacyStore.service service fresh).Respects R := by
  -- what becomes of the old form at the end changes no answer
  refine h.legacyList.bind fun cs => h.loadAll.bind fun present =>
    (h.copyAll fresh _ 0 cs {}).bind fun report => h.legacyReset.attempt.bind fun r => ?_
  cases r with
  | ok outcome => exact .pure report
  | error e => exact (Respects.warn _).bind fun _ => .pure report

end AdmitsCopies

/-- A relation that the parts of a turn respect. -/
structure Admits (R : SecretStore → SecretStore → Prop) : Prop extends AdmitsReads R where
  persist : ∀ c previous, (persist c previous).Respects R
  removeRecord : ∀ guid, (removeRecord guid).Respects R
  prefer : ∀ guid, (put defaultKey guid).Respects R
  preferNone : (Functor.discard (remove defaultKey)).Respects R
  reset : reset.Respects R
  legacyList : LegacyStore.list.Respects R
  legacyReset : LegacyStore.reset.Respects R

namespace Admits

variable (h : Admits R)

include h

theorem set (fresh : String) (details : Details) : (set fresh details).Respects R := by
  refine h.loadAll.bind fun existing => (Respects.ofExcept _).bind fun c =>
    (Respects.ofExcept _).bind fun _ => ?_
  -- an identifier in use ends it before anything is written
  have hrest := (h.persist c none).bind fun _ => Respects.pure (R := R) c
  by_cases hused : existing.any (·.guid == c.guid) = true
  · rw [if_pos hused]
    exact .throw _
  · rw [if_neg hused]
    exact hrest

theorem forceSet (fresh : String) (details : Details) : (forceSet fresh details).Respects R := by
  refine h.loadAll.bind fun existing => (Respects.ofExcept _).bind fun candidate => ?_
  exact (Respects.forM Respects.warn _).bind fun _ => (h.persist _ _).bind fun _ => .pure _

theorem delete (guid : String) : (delete guid).Respects R := by
  rw [delete_eq]
  refine (h.removeRecord guid).bind fun _ => h.defaultGuid.bind fun preferred => ?_
  by_cases hpreferred : preferred = some guid
  · rw [if_pos hpreferred]
    exact h.preferNone
  · rw [if_neg hpreferred]
    exact .pure ()

theorem perform (r : Request) : (service.perform r).Respects R := by
  cases r with
  | list => exact h.loadAll.map _
  | get guid => exact (h.get guid).map _
  | set random a => exact (h.set _ _).map _
  | forceSet random a => exact (h.forceSet _ _).map _
  | delete guid => exact (h.delete guid).map _
  | reset => exact h.reset.map _
  | defaultServer => exact h.defaultServer.map _
  | setDefaultServer guid => exact (h.setDefaultServer (h.prefer guid)).map _
  | clearDefaultServer => exact h.preferNone.map _

theorem admitsCopies : AdmitsCopies R :=
  ⟨h.loadAll, h.set, h.legacyList, h.legacyReset⟩

/-- What the parts of a turn respect, every turn respects. -/
theorem take (x : Turn) : x.take.Respects R := by
  -- of the requests a reset has an answer of its own
  cases x with
  | set random details => exact (h.set _ details).map _
  | forceSet random details => exact (h.forceSet _ details).map _
  | migrate random => exact (h.admitsCopies.migrate _).map _
  | copy random c => exact (h.admitsCopies.copy _ c).map _
  | request r =>
    cases r with
    | reset => exact h.reset.map _
    | _ => exact (h.perform _).map _

end Admits

/-! ## Properties -/

/-- A property of secret stores that the calls preserve, as long as only texts that fit are put. -/
structure Stable (P : SecretStore → Prop) (Fits : String → String → Prop) : Prop where
  retrieve : ∀ key, (retrieve key).Preserves P
  keysFrom : ∀ start, (keysFrom start).Preserves P
  remove : ∀ key, (remove key).Preserves P
  put : ∀ {key text}, Fits key text → (put key text).Preserves P
  fits_found : ∀ {s key text}, P s → s.entries.find? key = some text → Fits key text
  fits_record : ∀ c, Fits (credentialKey c.guid) (Record.ofCredential c).write
  fits_index : ∀ index : Index, Fits indexKey index.write
  fits_preferred : ∀ guid, Fits defaultKey guid

namespace Stable

variable {P : SecretStore → Prop} {Fits : String → String → Prop} (h : Stable P Fits)

theorem preserves_canList : canList.Preserves P :=
  preserves_iff.2 fun s r t hcan hs => by
    obtain ⟨-, rfl⟩ := (yields_canList s).unique hcan
    exact hs

include h

theorem read (key : String) : (read key).Preserves P :=
  (h.retrieve key).mapError _

theorem loadIndex : loadIndex.Preserves P :=
  loadIndex_closed (Respects.closed _) (h.read indexKey)

theorem guids : guids.Preserves P :=
  guids_closed (Respects.closed _) preserves_canList ((h.keysFrom _).mapError _) (h.read indexKey)

theorem load (guid : String) : (load guid).Preserves P :=
  load_closed (Respects.closed _) (h.read _)

theorem save (c : Credential) : (save c).Preserves P :=
  h.put (h.fits_record c)

theorem enter (c : Credential) : (enter c).Preserves P :=
  enter_closed (Respects.closed _) preserves_canList (h.read indexKey) fun index =>
    h.put (h.fits_index index)

theorem takeBack (c : Credential) (previous : Option Credential) :
    (takeBack c previous).Preserves P := by
  cases previous with
  | none => exact (h.remove _).discard
  | some p => exact h.save p

theorem persist (c : Credential) (previous : Option Credential) :
    (persist c previous).Preserves P := by
  -- whether the entry fails, and whether taking the record back does, only decides the answer
  refine (h.save c).bind fun _ => (h.enter c).attempt.bind fun r => ?_
  cases r with
  | ok _ => exact .pure ()
  | error e =>
    refine (h.takeBack c previous).attempt.bind fun q => ?_
    cases q with
    | ok _ => exact .throw e
    | error cause => exact (Respects.warn _).bind fun _ => .throw e

theorem removeEntry {guid text : String} (hfits : Fits (credentialKey guid) text) :
    (removeEntry guid text).Preserves P := by
  -- the index is read first, where there is one, and then both ways go on alike
  refine preserves_canList.bind fun canList =>
    .either canList (.pure none) (h.loadIndex.map some) fun index => ?_
  refine (h.remove _).discard.bind fun _ => ?_
  cases index with
  | none => exact .pure ()
  | some index =>
    refine (h.put (h.fits_index _)).attempt.bind fun r => ?_
    cases r with
    | ok _ => exact .pure ()
    | error e =>
      refine (h.put hfits).attempt.bind fun q => ?_
      cases q with
      | ok _ => exact .throw e
      | error cause => exact (Respects.warn _).bind fun _ => .throw e

/-- A record that is put back after its removal is the one that was found. -/
theorem removeRecord (guid : String) : (removeRecord guid).Preserves P := by
  refine preserves_iff.2 fun s r t hremove hs => ?_
  rcases hremove.bind_cases with ⟨e, hread, -⟩ | ⟨text?, u, hread, hrest⟩
  · exact (h.read _).of_yields hread hs
  have hu := (h.read _).of_yields hread hs
  obtain ⟨hkeeps, htext | ⟨e, he⟩⟩ := read_cases hread
  · cases htext
    cases hfind : s.entries.find? (credentialKey guid) with
    | none =>
      rw [hfind] at hrest
      exact Preserves.of_yields (.throw _) hrest hu
    | some text =>
      rw [hfind] at hrest
      exact (h.removeEntry (h.fits_found hs hfind)).of_yields hrest hu
  · cases he

theorem reset : reset.Preserves P :=
  reset_respects h.guids (fun _ => (h.remove _).discard) (h.remove _).discard (h.remove _).discard

theorem legacyList : LegacyStore.list.Preserves P :=
  legacyList_respects (h.retrieve _)

theorem legacyReset : LegacyStore.reset.Preserves P :=
  (h.remove _).discard.bind fun _ => .pure _

theorem admits : Admits (Both P) where
  guids := h.guids
  load := h.load
  defaultGuid := (h.read _).bind fun _ => .pure _
  persist := h.persist
  removeRecord := h.removeRecord
  prefer guid := h.put (h.fits_preferred guid)
  preferNone := (h.remove _).discard
  reset := h.reset
  legacyList := h.legacyList
  legacyReset := h.legacyReset

end Stable

end CredentialStore.KeyringStore
