import CredentialStore.Proofs.Migration.Invariant

/-!
# Which credential is preferred

The preferred credential is the one of the last preference that was accepted, until its identifier
is removed or the preference is taken back. Identifiers come out of migrations too, and those may be
any texts: the law holds of a run exactly where every identifier that comes to be preferred is read
back as it was written. A file reads back all of them; a keyring trims what it reads
(`default_guid`).

Main statements: `Ledger.Prefers.perform` (one request), `Backend.PrefersFirmly.step` (one step of a
run) and `Backend.prefers_of_run_iff`.
-/

namespace CredentialStore

open Op

/-- The identifier that is preferred once a request has been accepted. -/
def Request.preferred (p : Option String) : Request → Option String
  | .setDefaultServer guid => some guid
  | .delete guid => if p = some guid then none else p
  | .reset | .clearDefaultServer => none
  | _ => p

/-- What becomes preferred was preferred, or the request prefers it. -/
theorem Request.of_preferred {p : Option String} {r : Request} {guid : String}
    (h : r.preferred p = some guid) : p = some guid ∨ r = .setDefaultServer guid := by
  cases r with
  | setDefaultServer g =>
    cases h
    exact .inr rfl
  | delete g =>
    rw [Request.preferred] at h
    split at h
    · cases h
    · exact .inl h
  | reset => cases h
  | clearDefaultServer => cases h
  | _ => exact .inl h

/-- The identifier that is preferred after a step. -/
def Step.preferred (p : Option String) : Step → Except CredentialError Unit → Option String
  | .request r, .ok () => r.preferred p
  | _, _ => p

/-! ## Ledgers -/

namespace Ledger

/-- A ledger prefers an identifier of one of its credentials, or none. -/
structure Prefers (l : Ledger) (p : Option String) : Prop where
  preferred_eq : l.preferred = p
  exists_mem : ∀ guid, p = some guid → ∃ c ∈ l.credentials, c.guid = guid

variable {l : Ledger} {p : Option String}

theorem Prefers.of_subset {l' : Ledger} (h : l.Prefers p) (hpreferred : l'.preferred = l.preferred)
    (hguids : ∀ c ∈ l.credentials, ∃ c' ∈ l'.credentials, c'.guid = c.guid) : l'.Prefers p := by
  refine ⟨hpreferred.trans h.preferred_eq, fun guid hp => ?_⟩
  obtain ⟨c, hc, rfl⟩ := h.exists_mem guid hp
  exact hguids c hc

theorem Prefers.grows {l' : Ledger} (h : l.Prefers p) (hgrows : l.Grows l') : l'.Prefers p :=
  h.of_subset hgrows.keeps.1 fun c hc => ⟨c, hgrows.keeps.2 c hc, rfl⟩

/-- A request that fails leaves the ledger. -/
theorem perform_of_error {readBack : String → String} {r : Request} {e : CredentialError}
    (h : (l.perform readBack r).1 = .error e) : (l.perform readBack r).2 = l := by
  have hdiscard : ∀ {o : Except CredentialError Unit × Ledger},
      (o.map (·.map fun _ => Reply.done) id).1 = .error e → ∃ e', o.1 = .error e' := by
    rintro ⟨r, l'⟩ h
    cases r with
    | error e' => exact ⟨e', rfl⟩
    | ok u => cases h
  cases r with
  | set random a =>
    rcases set_cases l (Guid.ofRandom random) { toAttributes := a } with ⟨e', heq⟩ | ⟨c, -, -, -, heq⟩
    · rw [perform, heq]
      rfl
    · rw [perform, heq] at h
      cases h
  | forceSet random a =>
    cases hd : Details.toCredential { toAttributes := a } (Guid.ofRandom random) with
    | error e' =>
      rw [perform, forceSet_of_invalid hd]
      rfl
    | ok c =>
      rw [perform, forceSet_of_valid hd] at h
      cases h
  | delete guid =>
    obtain ⟨e', he'⟩ := hdiscard (o := l.delete guid) h
    show (l.delete guid).2 = l
    rw [delete] at he' ⊢
    split at he'
    · rfl
    · cases he'
  | setDefaultServer guid =>
    obtain ⟨e', he'⟩ := hdiscard (o := l.setDefaultServer readBack guid) h
    show (l.setDefaultServer readBack guid).2 = l
    rw [setDefaultServer] at he' ⊢
    split at he'
    · rfl
    · cases he'
  | reset => cases h
  | clearDefaultServer => cases h
  | _ => rfl

theorem preferred_of_setDefaultServer {readBack : String → String} {guid : String} {a : Reply}
    (h : (l.perform readBack (.setDefaultServer guid)).1 = .ok a) :
    (l.perform readBack (.setDefaultServer guid)).2.preferred = some (readBack guid) := by
  rw [perform, setDefaultServer] at h ⊢
  split at h
  · cases h
  · rfl

/-- One accepted request, unless it prefers an identifier that is read back as another one. -/
theorem Prefers.perform (h : l.Prefers p) (hv : Valid l.credentials) {readBack : String → String}
    {r : Request} (hr : r.DrawsUnused l.credentials) {a : Reply}
    (hok : (l.perform readBack r).1 = .ok a)
    (hback : ∀ guid, r = .setDefaultServer guid → readBack guid = guid) :
    (l.perform readBack r).2.Prefers (r.preferred p) := by
  cases r with
  | set random a => exact h.grows (.set .refl (Guid.ofRandom_ne_empty random) _)
  | forceSet random a =>
    cases hd : Details.toCredential { toAttributes := a } (Guid.ofRandom random) with
    | error e =>
      rw [Ledger.perform, forceSet_of_invalid hd]
      exact h
    | ok candidate =>
      rw [Ledger.perform, forceSet_of_valid hd]
      refine h.of_subset rfl fun c hc => ?_
      -- a credential stays, or its successor takes its identifier
      have hunused : ∀ x ∈ l.credentials, x.guid ≠ candidate.guid := by
        rw [Details.toCredential_guid hd]
        exact hr
      by_cases hname : c.name = (successor l.credentials candidate).name
      · exact ⟨_, (mem_put hv.names_nodup).2 (.inl rfl),
          ((fits_successor hv hunused c hc).1 hname).symm⟩
      · exact ⟨c, (mem_put hv.names_nodup).2 (.inr ⟨hc, hname⟩), rfl⟩
  | delete guid =>
    show (l.delete guid).2.Prefers (if p = some guid then none else p)
    rw [delete]
    cases hfind : l.find? guid with
    | none =>
      -- there was nothing to remove, so it has not been accepted
      rw [Ledger.perform, delete, hfind] at hok
      cases hok
    | some c =>
      refine ⟨by rw [← h.preferred_eq], fun g hg => ?_⟩
      split at hg
      · cases hg
      · rename_i hne
        obtain ⟨x, hx, rfl⟩ := h.exists_mem g hg
        refine ⟨x, List.mem_filter.2 ⟨hx, bne_iff_ne.2 fun heq => hne ?_⟩, rfl⟩
        rw [hg, heq]
  | setDefaultServer guid =>
    show (l.setDefaultServer readBack guid).2.Prefers (some guid)
    rw [setDefaultServer]
    cases hfind : l.find? guid with
    | none =>
      rw [Ledger.perform, setDefaultServer, hfind] at hok
      cases hok
    | some c =>
      refine ⟨congrArg some (hback guid rfl), fun g hg => ?_⟩
      cases hg
      exact ⟨c, (find?_eq_some_iff hv).1 hfind⟩
  | reset => exact ⟨rfl, fun guid hp => absurd hp (Option.some_ne_none guid).symm⟩
  | clearDefaultServer => exact ⟨rfl, fun guid hp => absurd hp (Option.some_ne_none guid).symm⟩
  | list => exact h
  | get guid => exact h
  | defaultServer => exact h

end Ledger

/-! ## Backends -/

namespace Backend

/-- The identifier that is preferred after a run of steps: that of the last preference that was
accepted, unless its removal, a reset or the end of all preference has been accepted since. -/
def preferredAfter (b : Backend) : List Step → World → Option String → Option String
  | [], _, p => p
  | x :: rest, w, p => b.preferredAfter rest (b.step x w).state (x.preferred p (b.step x w).answer)

/-- A backend answers with the credential stored under an identifier as the preferred one, or with
none. -/
def Prefers (b : Backend) (w : World) : Option String → Prop
  | some guid => ∃ c, (b.service.get guid w).answer = .ok c ∧
      (b.service.defaultServer w).answer = .ok (some c)
  | none => (b.service.defaultServer w).answer = .ok none

variable {b : Backend} {w w' : World} {l : Ledger} {p : Option String}

section Holds

variable (h : b.Holds w l) (hv : Ledger.Valid l.credentials)

include h hv

theorem answer_get (guid : String) : (b.service.get guid w).answer = l.get guid := by
  cases b with
  | file path => exact (FileStore.yields_get h hv guid).1
  | keyring => exact (KeyringStore.yields_get h hv guid).1

theorem answer_defaultServer : (b.service.defaultServer w).answer = .ok l.defaultServer := by
  cases b with
  | file path => exact (FileStore.yields_defaultServer h hv).1
  | keyring => exact (KeyringStore.yields_defaultServer h hv).1

/-- With another identifier in the place of a preferred one, its credential is not preferred. -/
theorem not_prefers_of_ne {guid guid' : String} (hp : l.preferred = some guid')
    (hne : guid' ≠ guid) : ¬ b.Prefers w (some guid) := by
  rintro ⟨c, hget, hdefault⟩
  rw [answer_get h hv, Ledger.get] at hget
  rw [answer_defaultServer h hv, Ledger.defaultServer, hp, Option.bind_some] at hdefault
  have hfound : l.find? guid' = some c := Except.ok.inj hdefault
  cases hfind : l.find? guid with
  | none =>
    rw [hfind] at hget
    cases hget
  | some x =>
    rw [hfind] at hget
    cases hget
    exact hne (((Ledger.find?_eq_some_iff hv).1 hfound).2.symm.trans
      ((Ledger.find?_eq_some_iff hv).1 hfind).2)

end Holds

/-- What is held prefers an identifier, which is one that is read back as it was written. -/
structure PrefersFirmly (b : Backend) (w : World) (p : Option String) : Prop where
  exists_ledger : ∃ l, b.Holds w l ∧ Ledger.Valid l.credentials ∧ l.Prefers p
  readBack_eq : ∀ guid, p = some guid → b.readBack guid = guid

theorem PrefersFirmly.prefers (h : b.PrefersFirmly w p) : b.Prefers w p := by
  obtain ⟨l, hholds, hv, hprefers⟩ := h.exists_ledger
  have hdefault := answer_defaultServer hholds hv
  rw [Ledger.defaultServer, hprefers.preferred_eq] at hdefault
  cases p with
  | none => exact hdefault
  | some guid =>
    obtain ⟨c, hc, rfl⟩ := hprefers.exists_mem guid rfl
    have hfind := (Ledger.find?_eq_some_iff hv).2 ⟨hc, rfl⟩
    refine ⟨c, ?_, ?_⟩
    · rw [answer_get hholds hv, Ledger.get, hfind]
    · rw [hdefault, Option.bind_some, hfind]

/-- A step that is not disturbed keeps this, or it prefers an identifier that is read back as
another one, and then the credential with that identifier is not preferred. -/
theorem PrefersFirmly.step (h : b.PrefersFirmly w p) {x : Step}
    (hdraws : ∀ stored, (b.service.list w).answer = .ok stored → x.DrawsUnused stored)
    {r : Except CredentialError Unit} (hstep : (b.step x).Yields w r w')
    (hdisk : ¬ FailedAtDisk r) :
    b.PrefersFirmly w' (x.preferred p r) ∨
      ∃ guid, x.preferred p r = some guid ∧ b.readBack guid ≠ guid ∧
        ¬ b.Prefers w' (x.preferred p r) := by
  obtain ⟨l, hholds, hv, hprefers⟩ := h.exists_ledger
  obtain ⟨l', hafter, htakes⟩ := (follows_step hholds hv hdraws hstep).resolve_left hdisk
  cases htakes with
  | migrate hgrows =>
    exact .inl ⟨⟨l', hafter, hgrows.valid hv, hprefers.grows hgrows⟩, h.readBack_eq⟩
  | @request request hr q hagree =>
    have hv' := hv.perform b.readBack hr
    cases hperform : (l.perform b.readBack request).1 with
    | error e =>
      rw [hperform] at hagree
      rw [Ledger.perform_of_error hperform] at hafter
      cases q with
      | ok a => exact hagree.elim
      | error f => exact .inl ⟨⟨l, hafter, hv, hprefers⟩, h.readBack_eq⟩
    | ok a =>
      rw [hperform] at hagree
      cases q with
      | error f => exact hagree.elim
      | ok a' =>
        by_cases hback : ∀ guid, request = .setDefaultServer guid → b.readBack guid = guid
        · refine .inl ⟨⟨_, hafter, hv', hprefers.perform hv hr hperform hback⟩, ?_⟩
          exact fun guid hp => (Request.of_preferred hp).elim (h.readBack_eq guid) (hback guid)
        · obtain ⟨guid, rfl, hne⟩ : ∃ guid, request = .setDefaultServer guid ∧
              b.readBack guid ≠ guid := by
            push Not at hback
            exact hback
          exact .inr ⟨guid, rfl, hne,
            not_prefers_of_ne hafter hv' (Ledger.preferred_of_setDefaultServer hperform) hne⟩

/-- The law of the preferred credential at every point of a run that starts with nothing stored: it
holds exactly where every identifier that comes to be preferred is read back as it was written. -/
theorem prefers_of_run_iff (hempty : b.Holds w {}) {steps : List Step}
    (hrun : b.Undisturbed steps w) :
    (∀ done, done <+: steps → b.Prefers (b.run done w) (b.preferredAfter done w none)) ↔
      ∀ done guid, done <+: steps → b.preferredAfter done w none = some guid →
        b.readBack guid = guid := by
  have hfirm : b.PrefersFirmly w none :=
    ⟨⟨{}, hempty, Ledger.valid_nil, rfl, nofun⟩, nofun⟩
  clear hempty
  generalize (none : Option String) = p at hfirm ⊢
  -- on the steps: each one keeps what is firmly preferred, or both sides fail right after it
  induction steps generalizing w p with
  | nil =>
    constructor
    · intro _ done guid hdone hp
      rw [List.prefix_nil.1 hdone] at hp
      exact hfirm.readBack_eq guid hp
    · intro _ done hdone
      rw [List.prefix_nil.1 hdone]
      exact hfirm.prefers
  | cons x rest ih =>
    obtain ⟨hdisk, hdraws, hrest⟩ := hrun
    rcases hfirm.step hdraws (yields_self (b.step x) w) hdisk with hnext | ⟨guid, hp, hback, hnot⟩
    · have hiff := ih hrest _ hnext
      constructor
      · intro hlaw done guid hdone hp
        rcases List.prefix_cons_iff.1 hdone with rfl | ⟨t, rfl, ht⟩
        · exact hfirm.readBack_eq guid hp
        · exact hiff.1 (fun t ht => hlaw (x :: t) ((List.prefix_cons_inj x).2 ht)) t guid ht hp
      · intro hback done hdone
        rcases List.prefix_cons_iff.1 hdone with rfl | ⟨t, rfl, ht⟩
        · exact hfirm.prefers
        · exact hiff.2 (fun t guid ht => hback (x :: t) guid ((List.prefix_cons_inj x).2 ht)) t ht
    · have hfirst : [x] <+: x :: rest := (List.prefix_cons_inj x).2 List.nil_prefix
      exact ⟨fun hlaw => absurd (hlaw [x] hfirst) hnot,
        fun hread => absurd (hread [x] guid hfirst hp) hback⟩

/-- A credential is migrated whose identifier starts with a blank, and it is preferred. -/
def preferredBlank : List Step :=
  [.migrate .store
    (some "\x7b\"work\": \x7b\"guid\": \" g\", \"url\": \"https://a.b\", \"apiKey\": \"k\"\x7d\x7d")
    fun _ => [],
    .request (.setDefaultServer " g")]

theorem not_prefers_of_run_preferredBlank :
    keyring.Undisturbed preferredBlank {} ∧
      ¬ ∀ done, done <+: preferredBlank →
        keyring.Prefers (keyring.run done {}) (keyring.preferredAfter done {} none) := by
  have hempty : keyring.Holds {} {} :=
    KeyringStore.holds_nothing ⟨rfl, rfl⟩ (fun _ => rfl) rfl rfl
  have hrun : keyring.Undisturbed preferredBlank {} :=
    ⟨by decide +kernel, fun _ _ => trivial, by decide +kernel, fun _ _ => trivial, trivial⟩
  have hp : keyring.preferredAfter preferredBlank {} none = some " g" := by decide +kernel
  refine ⟨hrun, fun hlaw => ?_⟩
  have htrim : Text.trim " g" = " g" :=
    (prefers_of_run_iff hempty hrun).1 hlaw preferredBlank " g" List.prefix_rfl hp
  exact absurd htrim (by decide +kernel)

end Backend

end CredentialStore
