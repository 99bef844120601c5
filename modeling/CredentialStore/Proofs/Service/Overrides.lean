import CredentialStore.Proofs.KeyringStore.Turns
import CredentialStore.Proofs.Migration.World
import CredentialStore.Proofs.Op.Silent

/-!
# Forced writes are audited

A plain write is refused at the first stored credential that has the name or the identity of the new
one (`check_for_conflicts`). A forced write is not, but tells of each credential (`audit_override`)
at which a rule is passed over: of one that shares its identity under another name, and of one of
the same name whose identity is lost. Both go through the stored credentials on their own, and agree
on what there is to object to, but for the credential that the write is meant to replace.

Main statements:

* `Credential.overridden_eq` — what is told, credential by credential;
* `Credential.overridden_eq_nil_iff` — nothing is told where a plain write would do, or would be
  refused only for the credential that is replaced;
* `Backend.forceSet_audited` — so it is in every store, whatever fails.
-/

namespace CredentialStore

open Op

/-! ## Rules that are passed over -/

namespace Credential

/-- The candidate shares either its name or its identity with a stored credential, but not both. -/
def isOverridden (candidate stored : Credential) : Bool :=
  (stored.name == candidate.name) != stored.sameIdentity candidate

/-- What is told of a stored credential at which a rule is passed over. -/
def overrideOf (backend : String) (candidate stored : Credential) : Warning :=
  if stored.name = candidate.name then
    .replacedIdentity backend stored.guid stored.name stored.url candidate.url
  else .sharedIdentity backend candidate.name stored.name candidate.url

variable {backend : String} {candidate c : Credential} {stored : List Credential}

theorem overridden?_eq : overridden? backend candidate c =
    if isOverridden candidate c then some (overrideOf backend candidate c) else none := by
  unfold overridden? isOverridden overrideOf
  by_cases hname : c.name = candidate.name
  · rw [if_pos hname, if_pos hname, beq_iff_eq.2 hname]
    cases c.sameIdentity candidate <;> rfl
  · rw [if_neg hname, if_neg hname, beq_eq_false_iff_ne.2 hname]
    cases c.sameIdentity candidate <;> rfl

/-- Each stored credential at which a rule is passed over is told of once, in the order of the list,
and no other is. -/
theorem overridden_eq : overridden backend stored candidate =
    (stored.filter (isOverridden candidate)).map (overrideOf backend candidate) := by
  unfold overridden
  induction stored with
  | nil => rfl
  | cons c stored ih =>
    rw [List.filterMap_cons, List.filter_cons, overridden?_eq, ih]
    cases isOverridden candidate c <;> rfl

/-- A candidate may take the name of one credential and the identity of another. -/
example :
    let staging : Credential := { guid := "1", name := "staging", url := "https://a.example.com" }
    let production : Credential := { guid := "2", name := "production", url := "https://b.example.com" }
    overridden "file" [staging, production]
        { name := "production", url := "https://a.example.com" } =
      [.sharedIdentity "file" "production" "staging" "https://a.example.com",
        .replacedIdentity "file" "2" "production" "https://b.example.com" "https://a.example.com"] := by
  decide +kernel

/-- A credential that is not told of is no obstacle, or is the one to be replaced. -/
theorem isOverridden_eq_false_iff : isOverridden candidate c = false ↔
    (c.conflict? candidate ≠ none → c.name = candidate.name ∧ c.sameIdentity candidate = true) := by
  unfold isOverridden
  rw [Ne, conflict?_eq_none_iff, bne_eq_false_iff_eq]
  by_cases hname : c.name = candidate.name
  · rw [beq_iff_eq.2 hname]
    exact ⟨fun h _ => ⟨hname, h.symm⟩, fun h => (h fun hne => hne.1 hname).2.symm⟩
  · rw [beq_eq_false_iff_ne.2 hname]
    refine ⟨fun h hconflict => absurd ⟨hname, h.symm⟩ hconflict, fun h => ?_⟩
    cases hidentity : c.sameIdentity candidate with
    | false => rfl
    | true => exact absurd (h fun hne => by rw [hidentity] at hne; exact nomatch hne.2).1 hname

theorem overridden_eq_nil_iff : overridden backend stored candidate = [] ↔
    checkAll stored candidate = .ok () ∨ ∀ c ∈ stored, c.conflict? candidate ≠ none →
      c.name = candidate.name ∧ c.sameIdentity candidate = true := by
  have hnone : overridden backend stored candidate = [] ↔
      ∀ c ∈ stored, c.conflict? candidate ≠ none →
        c.name = candidate.name ∧ c.sameIdentity candidate = true := by
    rw [overridden_eq, List.map_eq_nil_iff, List.filter_eq_nil_iff]
    exact forall₂_congr fun c _ => by rw [Bool.not_eq_true, isOverridden_eq_false_iff]
  rw [hnone]
  refine ⟨.inr, fun h => h.elim (fun hcheck c hc hconflict => ?_) id⟩
  -- where a plain write would do, there is no conflict at all
  exact absurd (conflict?_eq_none_iff.2 (checkAll_eq_ok_iff.1 hcheck c hc)) hconflict

end Credential

/-! ## Warnings of a store -/

/-- The warning tells of a rule that a forced write passes over. -/
def Warning.IsOverride : Warning → Prop
  | .replacedIdentity .. => True
  | .sharedIdentity .. => True
  | _ => False

/-- Among other warnings, none tells of a rule that is passed over unless there is one. -/
theorem forall_not_isOverride_iff {backend : String} {candidate : Credential}
    {stored : List Credential} {before after : List Warning}
    (hbefore : ∀ w ∈ before, ¬ w.IsOverride) (hafter : ∀ w ∈ after, ¬ w.IsOverride) :
    (∀ w ∈ before ++ Credential.overridden backend stored candidate ++ after, ¬ w.IsOverride) ↔
      Credential.overridden backend stored candidate = [] := by
  constructor
  · intro h
    refine List.eq_nil_iff_forall_not_mem.2 fun w hw => h w (by simp [hw]) ?_
    rw [Credential.overridden_eq] at hw
    obtain ⟨c, -, rfl⟩ := List.mem_map.1 hw
    unfold Credential.overrideOf
    split <;> exact trivial
  · intro h w hw
    rw [h, List.append_nil] at hw
    exact (List.mem_append.1 hw).elim (hbefore w) (hafter w)

section

variable {σ α β δ : Type}

/-- The operation warns only of some things, and only if it fails. -/
def Op.WarnsOnFailure (P : Warning → Prop) (x : Op σ α) : Prop :=
  ∀ s, ∀ w ∈ (x s).warnings, P w ∧ ∃ e, (x s).answer = .error e

theorem Op.IsSilent.warnsOnFailure {x : Op σ α} (h : x.IsSilent) (P : Warning → Prop) :
    x.WarnsOnFailure P := by
  intro s w hw
  rw [h s] at hw
  cases hw

theorem Op.WarnsOnFailure.map {P : Warning → Prop} {x : Op σ α} (h : x.WarnsOnFailure P)
    (g : α → β) : (g <$> x).WarnsOnFailure P := by
  intro s w hw
  rw [map_apply] at hw ⊢
  obtain ⟨hP, e, he⟩ := h s w hw
  exact ⟨hP, e, by rw [he]; rfl⟩

/-- What a store reports of a forced write: what it reports when it is listed, each rule that the
write passes over, and then what else there is to tell if the write fails. -/
structure Service.Audits (S : Service σ) (P : Warning → Prop) (fresh : String) (details : Details)
    (s : σ) : Prop where
  of_ok : ∀ {existing candidate}, (S.list s).answer = .ok existing →
    details.toCredential fresh = .ok candidate → ∃ after,
      (S.forceSet fresh details s).warnings =
        (S.list s).warnings ++ Credential.overridden S.name existing candidate ++ after ∧
      ∀ w ∈ after, P w ∧ ∃ e, (S.forceSet fresh details s).answer = .error e
  /-- Without a list or a candidate it does not come to that. -/
  of_error : ∀ {e}, (S.list s).answer = .error e ∨ details.toCredential fresh = .error e →
    (S.forceSet fresh details s).warnings = (S.list s).warnings

theorem Service.Audits.mono {S : Service σ} {P Q : Warning → Prop} {fresh : String}
    {details : Details} {s : σ} (h : S.Audits P fresh details s) (hPQ : ∀ w, P w → Q w) :
    S.Audits Q fresh details s := by
  refine ⟨fun hlist hd => ?_, h.of_error⟩
  obtain ⟨after, heq, hafter⟩ := h.of_ok hlist hd
  exact ⟨after, heq, fun w hw => ⟨hPQ w (hafter w hw).1, (hafter w hw).2⟩⟩

theorem Service.Audits.zoom {τ : Type} {S : Service σ} {P : Warning → Prop} {fresh : String}
    {details : Details} {part : τ → σ} {put : τ → σ → τ} {t : τ}
    (h : S.Audits P fresh details (part t)) : (S.zoom part put).Audits P fresh details t :=
  ⟨h.of_ok, h.of_error⟩

/-- A store audits its forced writes if it holds the candidate against what it has loaded, and tells
of the rules before it writes. -/
theorem Service.audits_of_eq {S : Service σ} {fresh : String} {details : Details}
    {load : Op σ δ} {write : δ → Credential → Op σ Credential} (credentials : δ → List Credential)
    (hlist : S.list = credentials <$> load)
    (hforce : S.forceSet fresh details = (do
      let d ← load
      let candidate ← Op.ofExcept (details.toCredential fresh)
      (Credential.overridden S.name (credentials d) candidate).forM Op.warn
      write d candidate))
    {P : Warning → Prop} (hwrite : ∀ d candidate, (write d candidate).WarnsOnFailure P) (s : σ) :
    S.Audits P fresh details s := by
  have hanswer : (S.list s).answer = (load s).answer.map credentials := by rw [hlist, map_apply]
  have hreported : (S.list s).warnings = (load s).warnings := by rw [hlist, map_apply]
  cases hload : (load s).answer with
  | error e =>
    rw [hload] at hanswer
    refine ⟨fun hexisting _ => ?_, fun _ => ?_⟩
    · cases hanswer.symm.trans hexisting
    · rw [hreported, hforce, bind_of_error _ hload]
  | ok d =>
    rw [hload] at hanswer
    refine ⟨fun {existing candidate} hexisting hd => ?_, fun he => ?_⟩
    · cases hanswer.symm.trans hexisting
      -- the rules are told of before anything is written
      have hrest := forM_warn_bind (Credential.overridden S.name (credentials d) candidate)
        (fun _ => write d candidate) (load s).state
      rw [hreported, hforce, hd, bind_of_ok _ hload]
      refine ⟨(write d candidate (load s).state).warnings, ?_, fun w hw => ?_⟩
      · exact (congrArg ((load s).warnings ++ ·) (congrArg Outcome.warnings hrest)).trans
          (List.append_assoc ..).symm
      · obtain ⟨hP, e, he⟩ := hwrite d candidate _ w hw
        exact ⟨hP, e, (congrArg Outcome.answer hrest).trans he⟩
    · have hd := he.resolve_left fun hexisting => nomatch hanswer.symm.trans hexisting
      rw [hreported, hforce, hd, bind_of_ok _ hload]
      exact List.append_nil _

end

/-! ## Both stores -/

namespace FileStore

theorem isSilent_load (path : String) : (load path).IsSilent := by
  refine (IsSilent.state.bind fun d => .pure _).bind fun r => ?_
  cases r with
  | ok text => exact .ofExcept _
  | error e => cases e <;> first | exact .pure _ | exact .throw _

theorem isSilent_change (x : Disk → Except IoError Unit × Disk) : (change x).IsSilent := by
  refine IsSilent.state.bind fun d => (IsSilent.setState _).bind fun _ => ?_
  cases (x d).1 with
  | ok u => exact .pure u
  | error e => exact .throw _

theorem isSilent_save (path : String) (document : Document) : (save path document).IsSilent :=
  (isSilent_change _).bind fun _ => isSilent_change _

theorem audits (path fresh : String) (details : Details) (d : Disk) :
    (service path).Audits (fun _ => False) fresh details d :=
  Service.audits_of_eq Document.list rfl rfl
    (fun _ _ => ((isSilent_save path _).map _).warnsOnFailure _) d

end FileStore

namespace SecretStore

theorem isSilent_pass (call : SecretCall) (key : String) : (pass call key).IsSilent := by
  intro s
  unfold pass
  cases FaultRule.consult call key s.faults with
  | mk e faults => cases e <;> rfl

theorem isSilent_passWrite (call : SecretCall) (key : String) : (passWrite call key).IsSilent := by
  refine (isSilent_pass call key).bind fun _ => IsSilent.state.bind fun s => ?_
  split
  · exact .throw _
  · exact .pure _

theorem isSilent_put (key value : String) : (put key value).IsSilent :=
  (isSilent_passWrite .store key).bind fun _ => IsSilent.state.bind fun _ => .setState _

theorem isSilent_retrieve (key : String) : (retrieve key).IsSilent :=
  (isSilent_pass .retrieve key).bind fun _ => IsSilent.state.bind fun _ => .pure _

theorem isSilent_remove (key : String) : (remove key).IsSilent :=
  (isSilent_passWrite .delete key).bind fun _ => IsSilent.state.bind fun _ =>
    (IsSilent.setState _).bind fun _ => .pure _

theorem isSilent_keysFrom (start : String) : (keysFrom start).IsSilent := by
  refine (isSilent_pass .list start).bind fun _ => IsSilent.state.bind fun s => ?_
  split
  · exact .pure _
  · exact .throw _

theorem isSilent_canList : canList.IsSilent :=
  IsSilent.state.bind fun _ => .pure _

end SecretStore

namespace KeyringStore

open SecretStore

theorem isSilent_read (key : String) : (read key).IsSilent :=
  (isSilent_retrieve key).mapError _

theorem isSilent_guids : guids.IsSilent :=
  guids_closed IsSilent.closed isSilent_canList ((isSilent_keysFrom _).mapError _) (isSilent_read _)

theorem isSilent_load (guid : String) : (load guid).IsSilent :=
  load_closed IsSilent.closed (isSilent_read _)

theorem isSilent_save (c : Credential) : (save c).IsSilent :=
  isSilent_put _ _

theorem isSilent_enter (c : Credential) : (enter c).IsSilent :=
  enter_closed IsSilent.closed isSilent_canList (isSilent_read _) fun _ => isSilent_put _ _

theorem isSilent_takeBack (c : Credential) (previous : Option Credential) :
    (takeBack c previous).IsSilent := by
  cases previous with
  | none => exact (isSilent_remove _).discard
  | some p => exact isSilent_save p

/-- Listing tells only of identifiers under which nothing was found. -/
theorem mem_warnings_loadEach {gs : List String} {s : SecretStore} {w : Warning}
    (h : w ∈ (loadEach gs s).warnings) : ∃ guid ∈ gs, w = .missingEntry guid := by
  induction gs generalizing s with
  | nil => cases h
  | cons guid gs ih =>
    obtain ⟨found, t, -, hw⟩ := (isSilent_load guid).mem_warnings_bind h
    cases found with
    | some c =>
      rcases mem_warnings_bind hw with hw | ⟨cs, u, -, hw⟩
      · obtain ⟨guid', hmem, rfl⟩ := ih hw
        exact ⟨guid', List.mem_cons_of_mem _ hmem, rfl⟩
      · cases hw
    | none =>
      rcases mem_warnings_bind hw with hw | ⟨a, u, -, hw⟩
      · exact ⟨guid, List.mem_cons_self, List.mem_singleton.1 hw⟩
      · obtain ⟨guid', hmem, rfl⟩ := ih hw
        exact ⟨guid', List.mem_cons_of_mem _ hmem, rfl⟩

theorem mem_warnings_loadAll {s : SecretStore} {w : Warning} (h : w ∈ (loadAll s).warnings) :
    ∃ guid, w = .missingEntry guid := by
  obtain ⟨gs, t, -, hw⟩ := isSilent_guids.mem_warnings_bind h
  obtain ⟨guid, -, rfl⟩ := mem_warnings_loadEach hw
  exact ⟨guid, rfl⟩

/-- A write warns of a record that it could not take back, once it has failed. -/
theorem warnsOnFailure_persist (c : Credential) (previous : Option Credential) :
    (persist c previous).WarnsOnFailure fun w => ∃ guid cause, w = .rollbackFailed guid cause := by
  intro s w hw
  obtain ⟨a, t, hsave, hw⟩ := (isSilent_save c).mem_warnings_bind hw
  obtain ⟨r, u, henter, hw⟩ := (isSilent_enter c).attempt.mem_warnings_bind hw
  cases r with
  | ok a => cases hw
  | error e =>
    obtain ⟨q, v, hback, hw⟩ := (isSilent_takeBack c previous).attempt.mem_warnings_bind hw
    cases q with
    | ok a => cases hw
    | error cause =>
      -- the warning comes right before the failure
      have hrest := (((yields_self (persist c previous) s).of_bind hsave).of_bind henter).of_bind hback
      have hfailed := (hrest.of_bind (yields_warn _ v)).unique (yields_throw e v)
      refine ⟨⟨c.guid, cause, ?_⟩, e, hfailed.1⟩
      exact List.mem_singleton.1 hw

theorem audits (fresh : String) (details : Details) (s : SecretStore) :
    service.Audits (fun w => ∃ guid cause, w = .rollbackFailed guid cause) fresh details s :=
  Service.audits_of_eq id (bind_pure loadAll).symm rfl
    (fun _ _ => (warnsOnFailure_persist _ _).map _) s

end KeyringStore

namespace Backend

variable {b : Backend} {w : World}

/-- Only a keyring has anything to report when it is listed. -/
theorem mem_warnings_list {x : Warning} (h : x ∈ (b.service.list w).warnings) :
    b = .keyring ∧ ∃ guid, x = .missingEntry guid := by
  cases b with
  | file path =>
    have hsilent : (FileStore.list path).IsSilent := (FileStore.isSilent_load path).map _
    have hmem : x ∈ (FileStore.list path w.disk).warnings := h
    rw [hsilent] at hmem
    cases hmem
  | keyring => exact ⟨rfl, KeyringStore.mem_warnings_loadAll h⟩

theorem audits (b : Backend) (fresh : String) (details : Details) (w : World) :
    b.service.Audits (fun x => b = .keyring ∧ ∃ guid cause, x = .rollbackFailed guid cause) fresh
      details w := by
  cases b with
  | file path => exact ((FileStore.audits path fresh details w.disk).mono fun _ => False.elim).zoom
  | keyring => exact ((KeyringStore.audits fresh details w.store).mono fun _ hx => ⟨rfl, hx⟩).zoom

/-- A plain write is refused with the first conflict. -/
theorem set_of_checkAll {fresh : String} {details : Details} {existing : List Credential}
    {candidate : Credential} {e : CredentialError} (hlist : (b.service.list w).answer = .ok existing)
    (hd : details.toCredential fresh = .ok candidate)
    (hcheck : Credential.checkAll existing candidate = .error e) :
    (b.service.set fresh details w).answer = .error e := by
  cases b with
  | file path =>
    have hlisted : (FileStore.list path).Yields w.disk (.ok existing) _ := ⟨hlist, rfl⟩
    obtain ⟨document, t, hload, hpure⟩ := hlisted.bind_ok
    obtain ⟨hexisting, -⟩ := hpure.unique (yields_pure document.list t)
    cases hexisting
    have hset : (FileStore.set path fresh details).Yields w.disk (.error e) t :=
      hload.bind (.bind ⟨hd, rfl⟩ (.bind_error ⟨hcheck, rfl⟩))
    exact hset.1
  | keyring =>
    have hload : KeyringStore.loadAll.Yields w.store (.ok existing) _ := ⟨hlist, rfl⟩
    have hset : (KeyringStore.set fresh details).Yields w.store (.error e) _ :=
      hload.bind (.bind ⟨hd, rfl⟩ (.bind_error ⟨hcheck, rfl⟩))
    exact hset.1

/-- Of each stored credential that has the identity of a candidate under another name, and of each
one that has its name and another identity, there is one thing to tell, in the order of the list,
and of no other. A forced write tells just that, between what listing reports and what comes of a
write that fails. So it tells of nothing where a plain write passes the check for conflicts, or
would be refused only at credentials that have both the name and the identity. -/
theorem forceSet_audited :
    (∀ backend stored (candidate : Credential), Credential.overridden backend stored candidate =
      (stored.filter candidate.isOverridden).map (candidate.overrideOf backend)) ∧
    ∀ (b : Backend) (fresh : String) (details : Details) (w : World),
      let listing := b.service.list w
      let outcome := b.service.forceSet fresh details w
      (∀ x ∈ listing.warnings, b = .keyring ∧ ∃ guid, x = .missingEntry guid) ∧
      match listing.answer, details.toCredential fresh with
      | .ok existing, .ok candidate =>
        (∃ after, outcome.warnings = listing.warnings ++
            Credential.overridden b.service.name existing candidate ++ after ∧
          ∀ x ∈ after, (b = .keyring ∧ ∃ guid cause, x = .rollbackFailed guid cause) ∧
            ∃ e, outcome.answer = .error e) ∧
        ((∀ x ∈ outcome.warnings, ¬ x.IsOverride) ↔
          Credential.checkAll existing candidate = .ok () ∨
            ∀ c ∈ existing, c.conflict? candidate ≠ none →
              c.name = candidate.name ∧ c.sameIdentity candidate = true) ∧
        ∀ e, Credential.checkAll existing candidate = .error e →
          (b.service.set fresh details w).answer = .error e
      | _, _ => outcome.warnings = listing.warnings := by
  refine ⟨fun _ _ _ => Credential.overridden_eq, fun b fresh details w => ?_⟩
  intro listing outcome
  have hlisting : ∀ x ∈ listing.warnings, b = .keyring ∧ ∃ guid, x = .missingEntry guid :=
    fun _ => mem_warnings_list
  refine ⟨hlisting, ?_⟩
  have haudits := b.audits fresh details w
  cases hlist : listing.answer with
  | error e => exact haudits.of_error (.inl hlist)
  | ok existing =>
    cases hd : details.toCredential fresh with
    | error e => exact haudits.of_error (.inr hd)
    | ok candidate =>
      obtain ⟨after, hwarnings, hafter⟩ := haudits.of_ok hlist hd
      refine ⟨⟨after, hwarnings, hafter⟩, ?_, fun e => set_of_checkAll hlist hd⟩
      -- neither what was reported before nor what comes after tells of a rule
      show (∀ x ∈ outcome.warnings, ¬ x.IsOverride) ↔ _
      rw [hwarnings, forall_not_isOverride_iff, Credential.overridden_eq_nil_iff]
      · intro x hx
        obtain ⟨-, guid, rfl⟩ := hlisting x hx
        exact id
      · intro x hx
        obtain ⟨⟨-, guid, cause, rfl⟩, -⟩ := hafter x hx
        exact id

/-- A keyring with two credentials. -/
def twoStored : World :=
  { store := { entries := .ofList [
    (KeyringStore.credentialKey "1", "\x7b\"guid\":\"1\",\"version\":1,\"data\":\x7b\"guid\":\"1\"," ++
      "\"name\":\"staging\",\"url\":\"https://a.b\",\"serverType\":\"connect\"\x7d\x7d"),
    (KeyringStore.credentialKey "2", "\x7b\"guid\":\"2\",\"version\":1,\"data\":\x7b\"guid\":\"2\"," ++
      "\"name\":\"production\",\"url\":\"https://c.d\",\"serverType\":\"connect\"\x7d\x7d")] } }

theorem list_twoStored : (Backend.keyring.service.list twoStored).answer = .ok [
    { guid := "1", name := "staging", url := "https://a.b" },
    { guid := "2", name := "production", url := "https://c.d" }] := by
  decide +kernel

/-- Details that take the name of one credential and the server of the other are told of twice, and
refused at the first where they are not forced. -/
theorem forceSet_audited_twoStored :
    let details : Details := .connect "production" "https://a.b" "k"
    let outcome := Backend.keyring.service.forceSet "3" details twoStored
    .sharedIdentity "keyring" "production" "staging" "https://a.b" ∈ outcome.warnings ∧
    .replacedIdentity "keyring" "2" "production" "https://c.d" "https://a.b" ∈ outcome.warnings ∧
    (¬ ∀ x ∈ outcome.warnings, ¬ x.IsOverride) ∧
    (Backend.keyring.service.set "3" details twoStored).answer =
      .error (.identityCollision "staging" "https://a.b" "") := by
  intro details outcome
  have hd : details.toCredential "3" =
      .ok { guid := "3", name := "production", url := "https://a.b", apiKey := "k" } := by
    decide +kernel
  obtain ⟨-, h⟩ := forceSet_audited.2 .keyring "3" details twoStored
  rw [list_twoStored, hd] at h
  obtain ⟨⟨after, hwarnings, -⟩, hiff, hset⟩ := h
  have hmem : ∀ x ∈ ([.sharedIdentity "keyring" "production" "staging" "https://a.b",
      .replacedIdentity "keyring" "2" "production" "https://c.d" "https://a.b"] : List Warning),
      x ∈ outcome.warnings := fun x hx => by
    show x ∈ (Backend.keyring.service.forceSet "3" details twoStored).warnings
    rw [hwarnings]
    exact List.mem_append_left _ (List.mem_append_right _ hx)
  refine ⟨hmem _ (by simp), hmem _ (by simp), fun hsilent => ?_, hset _ (by decide +kernel)⟩
  exact absurd (hiff.1 hsilent) (by decide +kernel)

end Backend

end CredentialStore
