import CredentialStore.Credential.Conflict
import CredentialStore.Credential.Record
import CredentialStore.Guid.Basic
import CredentialStore.Proofs.Op
import CredentialStore.Service

/-!
# Runs of a service

A run is a sequence of requests, each answered in the state that the ones before have left. A caller
cannot choose the identifier of a new credential; it is drawn from random bytes.
-/

namespace CredentialStore

/-- A request of a caller, with the random bytes that an identifier is drawn from. -/
inductive Request where
  | list
  | get (guid : String)
  | set (random : List UInt8) (attributes : Attributes)
  | forceSet (random : List UInt8) (attributes : Attributes)
  | delete (guid : String)
  | reset
  | defaultServer
  | setDefaultServer (guid : String)
  | clearDefaultServer

/-- Whether a request is a forced write. -/
def Request.IsForced : Request → Prop
  | .forceSet _ _ => True
  | _ => False

/-- Whether a request lists or writes credentials. -/
def Request.ListsOrWrites : Request → Prop
  | .list | .set _ _ | .forceSet _ _ => True
  | _ => False

/-- A forced write draws an identifier that none of the stored credentials has. -/
def Request.DrawsUnused (stored : List Credential) : Request → Prop
  | .forceSet random _ => ∀ c ∈ stored, c.guid ≠ Guid.ofRandom random
  | _ => True

/-- The order of the credentials does not matter. -/
theorem Request.DrawsUnused.perm {cs ds : List Credential} (hp : cs.Perm ds) {r : Request}
    (h : r.DrawsUnused cs) : r.DrawsUnused ds := by
  cases r with
  | forceSet random a => exact fun c hc => h c (hp.mem_iff.2 hc)
  | _ => trivial

/-- What a request is answered with, where it succeeds. What a reset leaves behind is not told. -/
inductive Reply where
  | credentials (cs : List Credential)
  | credential (c : Credential)
  | preferred (c : Option Credential)
  | done

namespace Service

variable {σ : Type}

/-- Answers one request. -/
def perform (s : Service σ) : Request → Op σ Reply
  | .list => Reply.credentials <$> s.list
  | .get guid => Reply.credential <$> s.get guid
  | .set random a => Reply.credential <$> s.set (Guid.ofRandom random) { toAttributes := a }
  | .forceSet random a =>
    Reply.credential <$> s.forceSet (Guid.ofRandom random) { toAttributes := a }
  | .delete guid => (fun _ => .done) <$> s.delete guid
  | .reset => (fun _ => .done) <$> s.reset
  | .defaultServer => Reply.preferred <$> s.defaultServer
  | .setDefaultServer guid => (fun _ => .done) <$> s.setDefaultServer guid
  | .clearDefaultServer => (fun _ => .done) <$> s.clearDefaultServer

/-- A request is answered over a part as over the whole. -/
theorem perform_zoom {τ : Type} (part : σ → τ) (put : σ → τ → σ) (s : Service τ) (r : Request) :
    (s.zoom part put).perform r = Op.zoom part put (s.perform r) := by
  cases r <;> exact Op.map_zoom ..

/-- The answers to a sequence of requests. -/
def answers (s : Service σ) : List Request → σ → List (Except CredentialError Reply)
  | [], _ => []
  | r :: rest, x => (s.perform r x).answer :: s.answers rest (s.perform r x).state

/-- No request goes unanswered, so the answers of two services to one run pair up. -/
theorem length_answers (s : Service σ) (requests : List Request) (x : σ) :
    (s.answers requests x).length = requests.length := by
  induction requests generalizing x with
  | nil => rfl
  | cons r rest ih => rw [answers, List.length_cons, List.length_cons, ih]

/-- So is a run of them. -/
theorem answers_zoom {τ : Type} {part : σ → τ} {put : σ → τ → σ}
    (hpart : ∀ x y, part (put x y) = y) (s : Service τ) (requests : List Request) (x : σ) :
    (s.zoom part put).answers requests x = s.answers requests (part x) := by
  induction requests generalizing x with
  | nil => rfl
  | cons r rest ih =>
    rw [answers, answers, perform_zoom, ih]
    show _ :: s.answers rest (part (put x (s.perform r (part x)).state)) = _
    rw [hpart]
    rfl

/-- No forced write of a run draws the identifier of a credential that is stored then. -/
def RunDrawsUnused (s : Service σ) : List Request → σ → Prop
  | [], _ => True
  | r :: rest, x =>
    (∀ stored, (s.list x).answer = .ok stored → r.DrawsUnused stored) ∧
      s.RunDrawsUnused rest (s.perform r x).state

end Service

/-! ## Answers that agree -/

/-- One reply for another; the order of a list does not count. -/
inductive Reply.Alike : Reply → Reply → Prop where
  | refl (r : Reply) : Alike r r
  | credentials {cs ds : List Credential} (h : cs.Perm ds) : Alike (.credentials cs) (.credentials ds)

theorem Reply.Alike.trans_symm {a b c : Reply} (h : a.Alike c) (h' : b.Alike c) : a.Alike b := by
  cases h with
  | refl =>
    cases h' with
    | refl => exact .refl _
    | credentials hp => exact .credentials hp.symm
  | credentials hp =>
    cases h' with
    | refl => exact .credentials hp
    | credentials hq => exact .credentials (hp.trans hq.symm)

instance decEqExcept {ε α : Type} [DecidableEq ε] [DecidableEq α] : DecidableEq (Except ε α)
  | .ok a, .ok b => decidable_of_iff (a = b) ⟨congrArg _, Except.ok.inj⟩
  | .error e, .error f => decidable_of_iff (e = f) ⟨congrArg _, Except.error.inj⟩
  | .ok _, .error _ | .error _, .ok _ => isFalse nofun

/-- Both answers are alike, or both are errors of one status. -/
def AgreeBy {α : Type} (alike : α → α → Prop) :
    Except CredentialError α → Except CredentialError α → Prop
  | .ok a, .ok b => alike a b
  | .error e, .error f => e.status = f.status
  | _, _ => False

/-- Both answers are alike replies, or both are errors of one status. -/
abbrev Agree : Except CredentialError Reply → Except CredentialError Reply → Prop :=
  AgreeBy Reply.Alike

namespace AgreeBy

variable {α β : Type}

theorem refl (r : Except CredentialError α) : AgreeBy Eq r r := by
  cases r <;> rfl

theorem map {alike : α → α → Prop} {alike' : β → β → Prop} {p q : Except CredentialError α}
    (h : AgreeBy alike p q) {f : α → β} (hf : ∀ {a b}, alike a b → alike' (f a) (f b)) :
    AgreeBy alike' (p.map f) (q.map f) := by
  cases p with
  | ok a =>
    cases q with
    | ok b => exact hf h
    | error e => exact h.elim
  | error e =>
    cases q with
    | ok b => exact h.elim
    | error f => exact h

end AgreeBy

theorem Agree.refl (r : Except CredentialError Reply) : Agree r r := by
  cases r with
  | ok a => exact Reply.Alike.refl a
  | error e => exact Eq.refl e.status

/-- Answers that agree with a third one agree. -/
theorem Agree.trans_symm {p q r : Except CredentialError Reply} (h : Agree p r)
    (h' : Agree q r) : Agree p q := by
  -- an answer only agrees with an answer, and an error with an error
  cases r with
  | ok c =>
    cases p with
    | error e => exact h.elim
    | ok a =>
      cases q with
      | error f => exact h'.elim
      | ok b => exact Reply.Alike.trans_symm h h'
  | error g =>
    cases p with
    | ok a => exact h.elim
    | error e =>
      cases q with
      | ok b => exact h'.elim
      | error f => exact Eq.trans h (Eq.symm h')

/-- Whether an error comes from the disk, also behind a migration. -/
def CredentialError.isIo : CredentialError → Bool
  | .io _ => true
  | .migration _ source => source.isIo
  | _ => false

/-- Whether an error comes from reading what is stored. -/
def CredentialError.isUnreadable : CredentialError → Bool
  | .corrupted _ | .load _ | .version _ => true
  | _ => false

/-- Whether an error is neither one of the disk nor one of a migration. -/
def CredentialError.isPlain : CredentialError → Bool
  | .io _ | .migration _ _ => false
  | _ => true

namespace CredentialError

variable {e : CredentialError}

theorem isPlain_of_isUnreadable (h : e.isUnreadable = true) : e.isPlain = true := by
  cases e with
  | io cause => cases h
  | migration name source => cases h
  | _ => rfl

theorem not_isIo_of_isPlain (h : e.isPlain = true) : e.isIo = false := by
  cases e with
  | io cause => cases h
  | migration name source => cases h
  | _ => rfl

end CredentialError

theorem isUnreadable_of_checkVersion {version : Nat} {e : CredentialError}
    (h : checkVersion version = .error e) : e.isUnreadable = true := by
  rw [checkVersion] at h
  split at h
  · cases h
  · cases h
    rfl

theorem Credential.isPlain_of_checkAll {stored : List Credential} {candidate : Credential}
    {e : CredentialError} (h : checkAll stored candidate = .error e) : e.isPlain = true := by
  obtain ⟨c, -, rfl | rfl⟩ := checkAll_error_cases h
  · rfl
  · rfl

/-- Whether an operation failed at the disk. -/
def FailedAtDisk {α : Type} : Except CredentialError α → Prop
  | .error e => e.isIo = true
  | .ok _ => False

instance {α : Type} : (r : Except CredentialError α) → Decidable (FailedAtDisk r)
  | .error e => inferInstanceAs (Decidable (e.isIo = true))
  | .ok _ => .isFalse id

theorem failedAtDisk_map {α β : Type} {f : α → β} {r : Except CredentialError α} :
    FailedAtDisk (r.map f) ↔ FailedAtDisk r := by
  cases r <;> exact Iff.rfl

end CredentialStore
