import CredentialStore.Proofs.FileStore.Failures
import CredentialStore.Proofs.FileStore.Operations
import CredentialStore.Proofs.KeyringStore.Operations
import Mathlib.Data.List.Forall2

/-!
# The two backends agree

A file and a secret store that hold the same answer every run of requests alike. Both follow the
ledger; they differ in what they read back of a preferred identifier, which does not show as long as
identifiers are drawn, since those have no blanks at their ends.

Main statements:

* `Paired.step` — a request is answered alike and leaves both with the same;
* `Paired.forall₂_answers` — on a disk with room, so is every request of a run;
* `answers_agree` — so it is wherever nothing fails at the disk.
-/

namespace CredentialStore

open Text

namespace Ledger

variable {l : Ledger}

/-- No identifier has blanks at its ends. -/
def Trimmed (cs : List Credential) : Prop :=
  ∀ c ∈ cs, trim c.guid = c.guid

/-- Where identifiers have no blanks at their ends, the preferred one is read back as written. -/
theorem perform_trim (h : Trimmed l.credentials) (r : Request) :
    l.perform trim r = l.perform id r := by
  cases r with
  | setDefaultServer guid =>
    -- what is preferred is an identifier that was found, so it is one of a credential
    have hset : l.setDefaultServer trim guid = l.setDefaultServer id guid := by
      rw [setDefaultServer, setDefaultServer]
      cases hfind : l.find? guid with
      | none => rfl
      | some c =>
        have hguid : c.guid = guid := by simpa using List.find?_some hfind
        have htrim := h c (List.mem_of_find?_eq_some hfind)
        rw [hguid] at htrim
        rw [htrim, id]
    rw [perform, perform, hset]
  | _ => rfl

theorem Trimmed.set (h : Trimmed l.credentials) {fresh : String} (hfresh : trim fresh = fresh)
    (a : Attributes) : Trimmed (l.set fresh { toAttributes := a }).2.credentials := by
  rcases set_cases l fresh { toAttributes := a } with ⟨e, heq⟩ | ⟨c, hd, -, -, heq⟩
  · rw [heq]
    exact h
  · rw [heq]
    intro x hx
    rcases List.mem_append.1 hx with hx | hx
    · exact h x hx
    · rw [List.mem_singleton.1 hx, Details.toCredential_guid hd]
      exact hfresh

theorem Trimmed.forceSet (h : Trimmed l.credentials) (hv : Valid l.credentials) {fresh : String}
    (hfresh : trim fresh = fresh) (a : Attributes) :
    Trimmed (l.forceSet fresh { toAttributes := a }).2.credentials := by
  cases hd : Details.toCredential { toAttributes := a } fresh with
  | error e =>
    rw [forceSet_of_invalid hd]
    exact h
  | ok candidate =>
    rw [forceSet_of_valid hd]
    intro x hx
    rcases (mem_put hv.names_nodup).1 hx with rfl | ⟨hx, -⟩
    · -- an identifier is inherited or drawn
      rcases successor_cases l.credentials candidate with ⟨p, hp, -, hsucc⟩ | ⟨-, hsucc⟩
      · rw [hsucc]
        exact h p hp
      · rw [hsucc, Details.toCredential_guid hd]
        exact hfresh
    · exact h x hx

theorem Trimmed.perform (h : Trimmed l.credentials) (hv : Valid l.credentials)
    (readBack : String → String) (r : Request) :
    Trimmed (l.perform readBack r).2.credentials := by
  rcases perform_cases l readBack r with ⟨p, heq⟩ | ⟨random, a, -, heq⟩ | ⟨random, a, -, heq⟩
  · rw [heq]
    exact fun c hc => h c (List.mem_filter.1 hc).1
  · rw [heq]
    exact h.set (Guid.trim_ofRandom random) a
  · rw [heq]
    exact h.forceSet hv (Guid.trim_ofRandom random) a

end Ledger

/-- A file and a secret store hold the same. -/
structure Paired (path : String) (d : Disk) (s : SecretStore) (l : Ledger) : Prop where
  file : FileStore.Holds path d l
  keyring : KeyringStore.Holds s l
  valid : Ledger.Valid l.credentials
  trimmed : Ledger.Trimmed l.credentials

variable {path : String} {d : Disk} {s : SecretStore} {l : Ledger}

/-- A request is answered alike and leaves both with the same, unless it fails at the disk. -/
theorem Paired.step (h : Paired path d s l) {r : Request} (hr : r.DrawsUnused l.credentials)
    (hdisk : ¬ FailedAtDisk ((FileStore.service path).perform r d).answer) :
    Agree ((FileStore.service path).perform r d).answer (KeyringStore.service.perform r s).answer ∧
      Paired path ((FileStore.service path).perform r d).state
        (KeyringStore.service.perform r s).state (l.perform id r).2 := by
  -- both are held against the ledger, and the keyring against one that reads back the same
  obtain ⟨q, t, hkeyring, hagree, ht⟩ := KeyringStore.follows_perform h.keyring h.valid hr
  rw [Ledger.perform_trim h.trimmed] at hagree ht
  obtain ⟨rfl, rfl⟩ := hkeyring
  -- the file is the one that may fail at the disk
  rcases FileStore.follows_perform h.file h.valid r with ⟨e, d', hio⟩ | ⟨d', hfile, hd'⟩
  · rw [hio.1] at hdisk
    exact absurd rfl hdisk
  · obtain ⟨hanswer, rfl⟩ := hfile
    rw [hanswer]
    exact ⟨Agree.trans_symm (Agree.refl _) hagree, hd', ht, h.valid.perform id hr,
      h.trimmed.perform h.valid id r⟩

/-- A run of requests is answered alike where both hold the same at first. -/
theorem Paired.agree (h : Paired path d s l) {requests : List Request}
    (hdisk : ∀ a ∈ (FileStore.service path).answers requests d, ¬ FailedAtDisk a)
    (hdraws : (FileStore.service path).RunDrawsUnused requests d) :
    ∀ p ∈ ((FileStore.service path).answers requests d).zip
      (KeyringStore.service.answers requests s), Agree p.1 p.2 := by
  -- on the requests: the first one leaves a pair again, and the rest starts from there
  induction requests generalizing d s l with
  | nil => exact fun p hp => (List.not_mem_nil hp).elim
  | cons r rest ih =>
    obtain ⟨hfirst, hrest⟩ := hdraws
    have hr := hfirst _ (FileStore.yields_list h.file h.valid).1
    obtain ⟨hagree, hpaired⟩ := h.step hr (hdisk _ List.mem_cons_self)
    intro p hp
    rcases List.mem_cons.1 hp with rfl | hp
    · exact hagree
    · exact ih hpaired (fun a ha => hdisk a (List.mem_cons_of_mem _ ha)) hrest p hp

/-- Nothing fails at an open disk, so that there all answers of a run agree, each with its own. -/
theorem Paired.forall₂_answers (h : Paired path d s l) (hopen : FileStore.IsOpen path d)
    {requests : List Request} (hdraws : (FileStore.service path).RunDrawsUnused requests d) :
    List.Forall₂ Agree ((FileStore.service path).answers requests d)
      (KeyringStore.service.answers requests s) := by
  refine List.forall₂_iff_zip.2 ⟨?_, fun hp => ?_⟩
  · rw [Service.length_answers, Service.length_answers]
  · exact h.agree (FileStore.not_failedAtDisk_of_isOpen hopen requests) hdraws _ hp

/-- Started with nothing in them, a file and a secret store answer every run of requests alike: the
same values, or errors of the same status. Nothing fails at the disk and no forced write draws an
identifier that is stored then; whether the secret store can list its keys does not matter. -/
theorem answers_agree (hfile : FileStore.Holds path d {}) (hkeyring : KeyringStore.Holds s {})
    (requests : List Request)
    (hdisk : ∀ a ∈ (FileStore.service path).answers requests d, ¬ FailedAtDisk a)
    (hdraws : (FileStore.service path).RunDrawsUnused requests d) :
    ∀ p ∈ ((FileStore.service path).answers requests d).zip
      (KeyringStore.service.answers requests s), Agree p.1 p.2 := by
  have hpaired : Paired path d s {} :=
    ⟨hfile, hkeyring, Ledger.valid_nil, fun c hc => (List.not_mem_nil hc).elim⟩
  exact hpaired.agree hdisk hdraws

/-- A first forced write. -/
def firstWrite : List Request :=
  [.list, .defaultServer,
    .forceSet [] { name := "work", url := "https://connect.example.com", apiKey := "key" }]

theorem answers_agree_firstWrite :
    (∀ a ∈ (FileStore.service "/credentials").answers firstWrite {}, ¬ FailedAtDisk a) ∧
      ∀ p ∈ ((FileStore.service "/credentials").answers firstWrite {}).zip
        (KeyringStore.service.answers firstWrite {}), Agree p.1 p.2 := by
  -- the disk is open: there is nothing on it but the root
  have hopen : FileStore.IsOpen "/credentials" {} :=
    ⟨⟨["credentials"], by decide +kernel, by decide, by decide⟩,
      ⟨["credentials.tmp"], by decide +kernel, by decide, by decide +kernel⟩, rfl⟩
  have hdisk : ∀ a ∈ (FileStore.service "/credentials").answers firstWrite {},
      ¬ FailedAtDisk a :=
    FileStore.not_failedAtDisk_of_isOpen hopen firstWrite
  have hfile : FileStore.Holds "/credentials" {} {} := FileStore.holds_of_notFound rfl
  have hkeyring : KeyringStore.Holds {} {} :=
    KeyringStore.holds_nothing ⟨rfl, rfl⟩ (fun _ => rfl) rfl rfl
  refine ⟨hdisk, answers_agree hfile hkeyring firstWrite hdisk ?_⟩
  -- only the third request draws an identifier, and nothing is listed before it
  refine ⟨fun _ _ => trivial, fun _ _ => trivial, fun stored hstored c hc => ?_, trivial⟩
  have hnone : ((FileStore.service "/credentials").list {}).answer = .ok [] :=
    (FileStore.yields_list hfile Ledger.valid_nil).1
  cases hnone.symm.trans hstored
  exact (List.not_mem_nil hc).elim

end CredentialStore
