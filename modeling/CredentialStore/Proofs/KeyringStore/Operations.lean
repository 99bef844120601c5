import CredentialStore.Proofs.KeyringStore.Reset

/-!
# The keyring store follows the ledger

Where a secret store holds what a ledger holds, every operation answers as the ledger does and
leaves what the ledger leaves. Lists are answered in another order, and of several conflicts another
one may be reported, with the same status. The preferred identifier is read back without blanks at
its ends. Main statement: `follows_perform`.
-/

namespace CredentialStore.KeyringStore

open Op SecretStore Text

/-- An operation answers alike and leaves what is told. -/
def Follows {α : Type} (alike : α → α → Prop) (x : Op SecretStore α) (s : SecretStore)
    (outcome : Except CredentialError α × Ledger) : Prop :=
  ∃ r t, x.Yields s r t ∧ AgreeBy alike r outcome.1 ∧ Holds t outcome.2

section Follows

variable {α β : Type} {alike : α → α → Prop} {s : SecretStore} {l : Ledger}

/-- What goes on as the rest of an operation does. -/
theorem Follows.of_rest {x y : Op SecretStore α} {s₀ : SecretStore}
    {outcome : Except CredentialError α × Ledger}
    (h : ∀ {r t}, y.Yields s r t → x.Yields s₀ r t) (hy : Follows alike y s outcome) :
    Follows alike x s₀ outcome := by
  obtain ⟨r, t, hyields, hagree, hholds⟩ := hy
  exact ⟨r, t, h hyields, hagree, hholds⟩

/-- The answer of an operation, changed. -/
theorem Follows.map {alike' : β → β → Prop} {x : Op SecretStore α}
    {outcome : Except CredentialError α × Ledger} (hx : Follows alike x s outcome) {f : α → β}
    (hf : ∀ {a b}, alike a b → alike' (f a) (f b)) :
    Follows alike' (f <$> x) s (outcome.map (·.map f) id) := by
  obtain ⟨r, t, hyields, hagree, hholds⟩ := hx
  refine ⟨r.map f, t, ?_, hagree.map hf, hholds⟩
  cases r with
  | ok a => exact hyields.map f
  | error e => exact hyields.map_error f

theorem follows_of_yields {x : Op SecretStore α} {r : Except CredentialError α}
    (hx : x.Yields s r s) (h : Holds s l) : Follows Eq x s (r, l) :=
  ⟨r, s, hx, .refl r, h⟩

end Follows

/-! ## Operations -/

section Operations

variable {s : SecretStore} {l : Ledger} (h : Holds s l) (hv : Ledger.Valid l.credentials)

include h hv

theorem follows_list : Follows List.Perm loadAll s (.ok l.credentials, l) := by
  obtain ⟨cs, hload, hperm⟩ := exists_loadAll h hv
  exact ⟨_, s, hload, hperm, h⟩

theorem yields_get (guid : String) : (get guid).Yields s (l.get guid) s := by
  refine (yields_load h hv guid).bind ?_
  rw [Ledger.get]
  cases l.find? guid with
  | none => exact yields_throw _ s
  | some c => exact yields_pure _ s

theorem yields_defaultServer : defaultServer.Yields s (.ok l.defaultServer) s := by
  refine (yields_defaultGuid h).bind ?_
  rw [Ledger.defaultServer]
  cases l.preferred with
  | none => exact yields_pure _ s
  | some guid => exact yields_load h hv guid

theorem follows_set (fresh : String) (details : Details) :
    Follows Eq (set fresh details) s (l.set fresh details) := by
  obtain ⟨cs, hload, hperm⟩ := exists_loadAll h hv
  refine .of_rest (fun hrest => hload.bind hrest) ?_
  cases hd : details.toCredential fresh with
  | error e =>
    rw [Ledger.set_of_invalid hd]
    exact follows_of_yields (.bind_error ⟨rfl, rfl⟩) h
  | ok c =>
    refine .of_rest (fun hrest => .bind ⟨rfl, rfl⟩ hrest) ?_
    -- the credentials come in another order: both checks fail or none, but the conflict that is
    -- found may be another one
    have hagree := Ledger.agreeBy_checkAll hperm c
    cases hcheck : Credential.checkAll l.credentials c with
    | error e =>
      rw [hcheck] at hagree
      rw [Ledger.set_of_conflict hd hcheck]
      cases hcs : Credential.checkAll cs c with
      | error f =>
        rw [hcs] at hagree
        exact ⟨.error f, s, .bind_error ⟨rfl, rfl⟩, hagree, h⟩
      | ok u =>
        rw [hcs] at hagree
        exact hagree.elim
    | ok u =>
      rw [hcheck] at hagree
      cases hcs : Credential.checkAll cs c with
      | error f =>
        rw [hcs] at hagree
        exact hagree.elim
      | ok u =>
        refine .of_rest (fun hrest => .bind ⟨rfl, rfl⟩ hrest) ?_
        rw [hperm.any_eq]
        by_cases hany : l.credentials.any (·.guid == c.guid) = true
        · rw [if_pos hany, Ledger.set_of_used hd hcheck hany]
          exact follows_of_yields (yields_throw _ s) h
        · rw [if_neg hany, Ledger.set_of_unused hd hcheck hany]
          -- the credential has a new name and a new identifier, so it may be put
          have hname : ∀ x ∈ l.credentials, x.name ≠ c.name := fun x hx =>
            (Credential.checkAll_eq_ok_iff.1 hcheck x hx).1
          have hguid : ∀ x ∈ l.credentials, x.guid ≠ c.guid := by simpa using hany
          have hfits : Ledger.Fits l.credentials c := fun x hx =>
            ⟨fun heq => absurd heq (hname x hx), fun heq => absurd heq (hguid x hx)⟩
          obtain ⟨t, hpersist, ht⟩ := exists_persist h hv hfits none
          rw [Ledger.put_of_forall_ne hname] at ht
          exact ⟨_, t, hpersist.bind (yields_pure c t), rfl, ht⟩

theorem follows_forceSet (fresh : String) (details : Details)
    (hunused : ∀ x ∈ l.credentials, x.guid ≠ details.effectiveGuid fresh) :
    Follows Eq (forceSet fresh details) s (l.forceSet fresh details) := by
  obtain ⟨cs, hload, hperm⟩ := exists_loadAll h hv
  refine .of_rest (fun hrest => hload.bind hrest) ?_
  cases hd : details.toCredential fresh with
  | error e =>
    rw [Ledger.forceSet_of_invalid hd]
    exact follows_of_yields (.bind_error ⟨rfl, rfl⟩) h
  | ok candidate =>
    refine .of_rest (fun hrest => .bind ⟨rfl, rfl⟩ (.bind (yields_forM_warn _ s) hrest)) ?_
    rw [← Details.toCredential_guid hd] at hunused
    -- names are distinct, so the order does not change what is replaced
    have hsuccessor := Ledger.successor_perm hv hperm candidate
    obtain ⟨t, hpersist, ht⟩ := exists_persist h hv (Ledger.fits_successor hv hunused)
      (cs.find? (·.name == candidate.name))
    rw [Ledger.forceSet_of_valid hd]
    rw [← hsuccessor] at hpersist ht ⊢
    exact ⟨_, t, hpersist.bind (yields_pure _ t), rfl, ht⟩

theorem follows_delete (guid : String) : Follows Eq (delete guid) s (l.delete guid) := by
  refine .of_rest (fun hrest => (yields_read h.responds _).bind hrest) ?_
  rw [Ledger.delete]
  cases hfind : l.find? guid with
  | none =>
    rw [Ledger.find?_eq_none_iff] at hfind
    cases htext : s.entries.find? (credentialKey guid) with
    | none => exact follows_of_yields (yields_throw _ s) h
    | some text =>
      -- every record is one of a credential
      obtain ⟨c, hc, hguid, -⟩ := h.keeps.record_iff.1 htext
      exact absurd hguid (hfind c hc)
  | some c =>
    obtain ⟨hc, rfl⟩ := (Ledger.find?_eq_some_iff hv).1 hfind
    rw [h.keeps.record_iff.2 ⟨c, hc, rfl, rfl⟩]
    obtain ⟨t, hremove, ht⟩ := exists_removeEntry h c.guid (Record.ofCredential c).write
    refine .of_rest (fun hrest => hremove.bind ((yields_defaultGuid ht).bind hrest)) ?_
    -- what was preferred is not preferred any more once it is removed
    by_cases hpreferred : l.preferred = some c.guid
    · rw [if_pos hpreferred, if_pos hpreferred]
      obtain ⟨u, hdefault, hu⟩ := exists_removeDefault ht
      exact ⟨_, u, hdefault, rfl, hu⟩
    · rw [if_neg hpreferred, if_neg hpreferred]
      exact follows_of_yields (yields_pure () t) ht

theorem follows_setDefaultServer (guid : String) :
    Follows Eq (setDefaultServer guid) s (l.setDefaultServer trim guid) := by
  refine .of_rest (fun hrest => (yields_load h hv guid).bind hrest) ?_
  rw [Ledger.setDefaultServer]
  cases hfind : l.find? guid with
  | none => exact follows_of_yields (yields_throw _ s) h
  | some c =>
    -- only the text of the preference changes
    refine ⟨_, _, yields_put h.responds defaultKey guid, rfl, h.responds.with_entries _,
      h.keeps.congr (fun g => ?_) ?_, ?_⟩
    · show (s.entries.insert defaultKey guid).find? _ = _
      rw [SortedTable.find?_insert, if_neg (Ne.symm (credentialKey_ne_defaultKey g))]
    · show (s.entries.insert defaultKey guid).find? _ = _
      rw [SortedTable.find?_insert, if_neg (by decide)]
    · show ((s.entries.insert defaultKey guid).find? defaultKey).map trim = _
      rw [SortedTable.find?_insert, if_pos rfl]
      rfl

theorem follows_reset : Follows (fun _ _ => True) reset s (.ok {}, {}) := by
  obtain ⟨t, hreset, ht⟩ := exists_reset h hv
  exact ⟨_, t, hreset, trivial, ht⟩

end Operations

theorem follows_clearDefaultServer {s : SecretStore} {l : Ledger} (h : Holds s l) :
    Follows Eq clearDefaultServer s (.ok (), { l with preferred := none }) := by
  obtain ⟨t, hremove, ht⟩ := exists_removeDefault h
  exact ⟨_, t, hremove, rfl, ht⟩

/-! ## Requests -/

/-- Every request is answered as by the ledger. -/
theorem follows_perform {s : SecretStore} {l : Ledger} (h : Holds s l)
    (hv : Ledger.Valid l.credentials) {r : Request} (hr : r.DrawsUnused l.credentials) :
    Follows Reply.Alike (service.perform r) s (l.perform trim r) := by
  have heq : ∀ {α : Type} {f : α → Reply} {a b : α}, a = b → Reply.Alike (f a) (f b) := by
    rintro α f a b rfl
    exact .refl _
  cases r with
  | list => exact (follows_list h hv).map .credentials
  | get guid => exact (follows_of_yields (yields_get h hv guid) h).map heq
  | set random a => exact (follows_set h hv _ _).map heq
  | forceSet random a => exact (follows_forceSet h hv _ { toAttributes := a } hr).map heq
  | delete guid => exact (follows_delete h hv guid).map fun _ => .refl _
  | reset => exact (follows_reset h hv).map fun _ => .refl _
  | defaultServer => exact (follows_of_yields (yields_defaultServer h hv) h).map heq
  | setDefaultServer guid => exact (follows_setDefaultServer h hv guid).map fun _ => .refl _
  | clearDefaultServer => exact (follows_clearDefaultServer h).map fun _ => .refl _

end CredentialStore.KeyringStore
