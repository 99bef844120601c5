import CredentialStore.Proofs.Credential.Validation
import CredentialStore.Proofs.Error
import CredentialStore.Proofs.KeyringStore.Listing
import CredentialStore.Proofs.Op.Failures

/-!
# What a keyring fails with

A secret store knows nothing of migrations. Whatever calls of it fail, and however that is followed
up, a keyring in it lists and writes credentials without an error of a migration. So an error of a
migration tells that a migration was run, and nothing in a keyring runs one.

Main statements: `KeyringStore.direct_loadAll` and `KeyringStore.direct_set`.
-/

namespace CredentialStore

open Op

theorem CredentialError.not_isMigration_of_isPlain {e : CredentialError} (h : e.isPlain = true) :
    e.isMigration = false := by
  cases e with
  | migration name source => cases h
  | _ => rfl

/-- A call uses up rules at most, and fails with what one of them says. -/
theorem FaultRule.direct_consult (call : SecretCall) (key : String) {rules : List FaultRule}
    (h : ∀ r ∈ rules, r.error.isMigration = false) :
    (∀ r ∈ (consult call key rules).2, r.error.isMigration = false) ∧
      ∀ e, (consult call key rules).1 = some e → e.isMigration = false := by
  induction rules with
  | nil => exact ⟨h, nofun⟩
  | cons r rest ih =>
    have hr := h r List.mem_cons_self
    have hrest := fun x hx => h x (List.mem_cons_of_mem r hx)
    obtain ⟨hafter, herror⟩ := ih hrest
    rw [consult]
    split
    · -- the first rule fires
      refine ⟨fun x hx => ?_, fun e he => ?_⟩
      · rcases List.mem_cons.1 hx with rfl | hx
        · exact hr
        · exact hrest x hx
      · cases he
        exact hr
    · refine ⟨fun x hx => ?_, herror⟩
      rcases List.mem_cons.1 hx with rfl | hx
      · split <;> exact hr
      · exact hafter x hx

namespace SecretStore

/-- No call of the store fails with the error of a migration. -/
def FailsDirectly (s : SecretStore) : Prop :=
  ∀ rule ∈ s.faults, rule.error.isMigration = false

instance (s : SecretStore) : Decidable s.FailsDirectly :=
  inferInstanceAs (Decidable (∀ rule ∈ s.faults, _))

/-- As long as no call does, the operation does not fail with the error of a migration. -/
abbrev Direct {α : Type} (x : Op SecretStore α) : Prop :=
  x.FailsAs FailsDirectly fun e => e.isMigration = false

theorem direct_pass (call : SecretCall) (key : String) : Direct (pass call key) := by
  rintro s r t hs ⟨rfl, rfl⟩
  have hconsult := FaultRule.direct_consult call key hs
  unfold pass
  cases hc : FaultRule.consult call key s.faults with
  | mk e faults =>
    rw [hc] at hconsult
    cases e with
    | none => exact ⟨hconsult.1, nofun⟩
    | some e =>
      refine ⟨hconsult.1, fun e' he => ?_⟩
      cases he
      exact hconsult.2 e rfl

theorem direct_passWrite (call : SecretCall) (key : String) : Direct (passWrite call key) := by
  refine (direct_pass call key).bind fun _ => .bind_state fun s _ => ?_
  split
  · exact .throw rfl
  · exact .pure ()

theorem direct_put (key value : String) : Direct (put key value) :=
  (direct_passWrite .store key).bind fun _ => .bind_state fun _ hs => .setState hs

theorem direct_retrieve (key : String) : Direct (retrieve key) :=
  (direct_pass .retrieve key).bind fun _ => .bind_state fun _ _ => .pure _

theorem direct_remove (key : String) : Direct (remove key) := by
  refine (direct_passWrite .delete key).bind fun _ => .bind_state fun s hs => ?_
  refine FailsAs.bind (.setState ?_) fun _ => .pure _
  exact hs

theorem direct_keysFrom (start : String) : Direct (keysFrom start) := by
  refine (direct_pass .list start).bind fun _ => .bind_state fun s _ => ?_
  split
  · exact .pure _
  · -- a store that cannot list says so itself
    refine .throw ?_
    unfold cannotList
    split <;> rfl

theorem direct_canList : Direct canList :=
  .bind_state fun _ _ => .pure _

end SecretStore

namespace KeyringStore

open SecretStore

theorem not_isMigration_asLoadError {e : CredentialError} (h : e.isMigration = false) :
    (asLoadError e).isMigration = false := by
  unfold asLoadError
  split
  · rfl
  · exact h

theorem direct_read (key : String) : Direct (read key) :=
  (direct_retrieve key).mapError fun _ => not_isMigration_asLoadError

theorem direct_loadIndex : Direct loadIndex := by
  refine (direct_read indexKey).bind fun text? => ?_
  cases text? with
  | none => exact .pure _
  | some text =>
    dsimp only
    split
    · exact .pure _
    · exact .throw rfl

theorem direct_guids : Direct guids := by
  refine direct_canList.bind fun canList => ?_
  cases canList with
  | true =>
    exact ((direct_keysFrom credentialStart).mapError fun _ => not_isMigration_asLoadError).bind
      fun _ => .pure _
  | false => exact direct_loadIndex.bind fun _ => .pure _

theorem direct_load (guid : String) : Direct (load guid) := by
  refine (direct_read _).bind fun text? => ?_
  cases text? with
  | none => exact .pure none
  | some text =>
    refine FailsAs.map (.ofExcept fun e he => ?_) some
    exact CredentialError.not_isMigration_of_isPlain
      (CredentialError.isPlain_of_isUnreadable (isUnreadable_of_decode he))

theorem direct_loadEach (gs : List String) : Direct (loadEach gs) := by
  -- on the identifiers; one without a record is passed over
  induction gs with
  | nil => exact .pure []
  | cons guid rest ih =>
    refine (direct_load guid).bind fun c? => ?_
    cases c? with
    | none => exact (FailsAs.warn _).bind fun _ => ih
    | some c => exact ih.bind fun cs => .pure (c :: cs)

theorem direct_loadAll : Direct loadAll :=
  direct_guids.bind direct_loadEach

theorem direct_enter (c : Credential) : Direct (enter c) := by
  refine direct_canList.bind fun canList => ?_
  cases canList with
  | true => exact .pure ()
  | false =>
    refine direct_loadIndex.bind fun index => ?_
    split
    · exact .pure ()
    · exact direct_put _ _

theorem direct_takeBack (c : Credential) (previous : Option Credential) :
    Direct (takeBack c previous) := by
  cases previous with
  | none => exact (direct_remove _).discard
  | some p => exact direct_put _ _

/-- A write that is taken back fails with what made it necessary. -/
theorem direct_persist (c : Credential) (previous : Option Credential) :
    Direct (persist c previous) := by
  refine (direct_put _ _).bind fun _ => (direct_enter c).bind_attempt .pure fun e he => ?_
  refine (direct_takeBack c previous).bind_attempt (fun _ => .throw he) fun cause _ => ?_
  exact (FailsAs.warn _).bind fun _ => .throw he

theorem direct_set (fresh : String) (details : Details) : Direct (set fresh details) := by
  refine direct_loadAll.bind fun existing => ?_
  refine FailsAs.bind (.ofExcept fun e he => ?_) fun c => ?_
  · exact CredentialError.not_isMigration_of_isPlain (Details.isPlain_of_toCredential he)
  refine FailsAs.bind (.ofExcept fun e he => ?_) fun _ => ?_
  · exact CredentialError.not_isMigration_of_isPlain (Credential.isPlain_of_checkAll he)
  split
  · exact .throw rfl
  · exact (direct_persist c none).bind fun _ => .pure c

end KeyringStore

end CredentialStore
