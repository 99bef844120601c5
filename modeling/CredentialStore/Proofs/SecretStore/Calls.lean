import CredentialStore.Proofs.Op
import CredentialStore.SecretStore.Basic

/-!
# Calls of a secret store

What each call answers and leaves. Where no call fails, an equation for each (`yields_put`,
`yields_retrieve`, …); whatever fails, the cases of a finished call (`put_cases`, `retrieve_cases`,
…): it answered and did its work, or it failed and left all texts.
-/

namespace CredentialStore.SecretStore

open Op

variable {s t : SecretStore} {key : String}

/-- No call of the store fails. -/
structure Responds (s : SecretStore) : Prop where
  faults_eq : s.faults = []
  rejected_eq : s.rejected = none

/-- The store with no rules for failing calls. -/
def restored (s : SecretStore) : SecretStore :=
  { s with faults := [], rejected := none }

theorem responds_restored (s : SecretStore) : s.restored.Responds :=
  ⟨rfl, rfl⟩

theorem Responds.with_entries (h : s.Responds) (entries : SortedTable String) :
    ({ s with entries } : SecretStore).Responds :=
  ⟨h.faults_eq, h.rejected_eq⟩

/-! ## Stores that respond -/

section Responds

variable (h : s.Responds)

include h

theorem yields_pass (call : SecretCall) (key : String) : (pass call key).Yields s (.ok ()) s := by
  have hs : ({ s with faults := [] } : SecretStore) = s := by rw [← h.faults_eq]
  rw [Yields, pass, h.faults_eq]
  simp only [FaultRule.consult, hs, and_self]

theorem yields_passWrite (call : SecretCall) (key : String) :
    (passWrite call key).Yields s (.ok ()) s := by
  refine (yields_pass h call key).bind ((yields_state s).bind ?_)
  rw [rejects, h.rejected_eq]
  exact yields_pure () s

theorem yields_put (key value : String) :
    (put key value).Yields s (.ok ()) { s with entries := s.entries.insert key value } :=
  (yields_passWrite h .store key).bind ((yields_state s).bind (yields_setState s _))

theorem yields_retrieve (key : String) :
    (retrieve key).Yields s (.ok (s.entries.find? key)) s :=
  (yields_pass h .retrieve key).bind ((yields_state s).bind (yields_pure _ s))

theorem yields_remove (key : String) :
    (remove key).Yields s (.ok (s.entries.find? key).isSome)
      { s with entries := s.entries.erase key } :=
  (yields_passWrite h .delete key).bind ((yields_state s).bind
    ((yields_setState s _).bind (yields_pure _ _)))

theorem yields_keysFrom (hlisting : s.listing = true) (start : String) :
    (keysFrom start).Yields s
      (.ok (s.entries.keys.filter fun key => start.toList.isPrefixOf key.toList)) s := by
  refine (yields_pass h .list start).bind ((yields_state s).bind ?_)
  rw [if_pos hlisting]
  exact yields_pure _ s

end Responds

/-! ## Stores that can be read -/

/-- No call that reads fails. -/
def RespondsToReads (s : SecretStore) : Prop :=
  ∀ r ∈ s.faults, r.call ≠ .retrieve ∧ r.call ≠ .list

theorem respondsToReads_restored (s : SecretStore) : s.restored.RespondsToReads :=
  fun _ hr => (List.not_mem_nil hr).elim

section RespondsToReads

variable (h : s.RespondsToReads)

include h

/-- A call that reads passes, and no rule is used up. -/
theorem yields_pass_of_reads {call : SecretCall} (hcall : call = .retrieve ∨ call = .list)
    (key : String) : (pass call key).Yields s (.ok ()) s := by
  have hconsult : FaultRule.consult call key s.faults = (none, s.faults) := by
    refine FaultRule.consult_of_not_applies fun r hr => ?_
    obtain ⟨hretrieve, hlist⟩ := h r hr
    unfold FaultRule.applies
    rcases hcall with rfl | rfl
    · simp [hretrieve]
    · simp [hlist]
  unfold Yields pass
  rw [hconsult]
  exact ⟨rfl, rfl⟩

theorem yields_retrieve_of_reads (key : String) :
    (retrieve key).Yields s (.ok (s.entries.find? key)) s :=
  (yields_pass_of_reads h (.inl rfl) key).bind ((yields_state s).bind (yields_pure _ s))

theorem yields_keysFrom_of_reads (start : String) :
    (keysFrom start).Yields s
      (if s.listing then .ok (s.entries.keys.filter fun key => start.toList.isPrefixOf key.toList)
        else .error s.cannotList) s := by
  refine (yields_pass_of_reads h (.inr rfl) start).bind ((yields_state s).bind ?_)
  by_cases hlisting : s.listing = true
  · rw [if_pos hlisting, if_pos hlisting]
    exact yields_pure _ s
  · rw [if_neg hlisting, if_neg hlisting]
    exact yields_throw _ s

end RespondsToReads

theorem yields_canList (s : SecretStore) : canList.Yields s (.ok s.listing) s :=
  (yields_state s).bind (yields_pure _ s)

/-! ## Stores whose calls may fail -/

/-- The second store keeps the texts of the first. -/
structure Keeps (s t : SecretStore) : Prop where
  entries_eq : t.entries = s.entries
  listing_eq : t.listing = s.listing

theorem Keeps.refl (s : SecretStore) : s.Keeps s :=
  ⟨rfl, rfl⟩

theorem Keeps.symm (h : s.Keeps t) : t.Keeps s :=
  ⟨h.entries_eq.symm, h.listing_eq.symm⟩

theorem Keeps.trans {u : SecretStore} (h : s.Keeps t) (h' : t.Keeps u) : s.Keeps u :=
  ⟨h'.entries_eq.trans h.entries_eq, h'.listing_eq.trans h.listing_eq⟩

theorem keeps_restored (s : SecretStore) : s.Keeps s.restored :=
  ⟨rfl, rfl⟩

/-- The second store keeps the texts of the first but that under one key. -/
structure KeepsBut (key : String) (s t : SecretStore) : Prop where
  listing_eq : t.listing = s.listing
  find?_eq : ∀ {key'}, key' ≠ key → t.entries.find? key' = s.entries.find? key'

theorem Keeps.keepsBut (h : s.Keeps t) (key : String) : KeepsBut key s t :=
  ⟨h.listing_eq, fun _ => by rw [h.entries_eq]⟩

theorem KeepsBut.trans {u : SecretStore} (h : KeepsBut key s t) (h' : KeepsBut key t u) :
    KeepsBut key s u :=
  ⟨h'.listing_eq.trans h.listing_eq, fun hkey => (h'.find?_eq hkey).trans (h.find?_eq hkey)⟩

theorem keepsBut_insert (s : SecretStore) (key value : String) :
    KeepsBut key s { s with entries := s.entries.insert key value } :=
  ⟨rfl, fun hkey => by rw [SortedTable.find?_insert, if_neg (Ne.symm hkey)]⟩

theorem keepsBut_erase (s : SecretStore) (key : String) :
    KeepsBut key s { s with entries := s.entries.erase key } :=
  ⟨rfl, fun hkey => by rw [SortedTable.find?_erase, if_neg hkey]⟩

theorem keeps_pass {call : SecretCall} {r : Except CredentialError Unit}
    (h : (pass call key).Yields s r t) : s.Keeps t := by
  obtain ⟨-, rfl⟩ := h
  -- a call uses up rules, whether it fails or not
  unfold pass
  cases FaultRule.consult call key s.faults with
  | mk e faults => cases e <;> exact ⟨rfl, rfl⟩

theorem keeps_passWrite {call : SecretCall} {r : Except CredentialError Unit}
    (h : (passWrite call key).Yields s r t) : s.Keeps t := by
  rcases h.bind_cases with ⟨e, hpass, -⟩ | ⟨u, s₁, hpass, hrest⟩
  · exact keeps_pass hpass
  · -- a write that is rejected has got past the rules
    refine (keeps_pass hpass).trans ?_
    obtain ⟨-, rfl⟩ := hrest
    rw [bind_state]
    split <;> exact .refl _

/-- A text was put, or the call failed and left all texts. -/
theorem put_cases {value : String} {r : Except CredentialError Unit}
    (h : (put key value).Yields s r t) :
    (r = .ok () ∧ ({ s with entries := s.entries.insert key value } : SecretStore).Keeps t) ∨
      (∃ e, r = .error e) ∧ s.Keeps t := by
  rcases h.bind_cases with ⟨e, hpass, rfl⟩ | ⟨u, s₁, hpass, hrest⟩
  · exact .inr ⟨⟨e, rfl⟩, keeps_passWrite hpass⟩
  · -- the text is put among those that were there before the rules were asked
    obtain ⟨hentries, hlisting⟩ := keeps_passWrite hpass
    obtain ⟨rfl, rfl⟩ := hrest
    rw [bind_state]
    exact .inl ⟨rfl, by show s₁.entries.insert key value = _; rw [hentries], hlisting⟩

/-- A read leaves all texts, and answers with the text under the key if it does not fail. -/
theorem retrieve_cases {r : Except CredentialError (Option String)}
    (h : (retrieve key).Yields s r t) :
    s.Keeps t ∧ (r = .ok (s.entries.find? key) ∨ ∃ e, r = .error e) := by
  rcases h.bind_cases with ⟨e, hpass, rfl⟩ | ⟨u, s₁, hpass, hrest⟩
  · exact ⟨keeps_pass hpass, .inr ⟨e, rfl⟩⟩
  · have hkeeps := keeps_pass hpass
    obtain ⟨rfl, rfl⟩ := hrest
    rw [bind_state]
    exact ⟨hkeeps, .inl (by rw [← hkeeps.entries_eq]; rfl)⟩

/-- What a read answers depends on the rules and on the text under the key. -/
theorem answer_retrieve_congr (hfaults : t.faults = s.faults)
    (hfind : t.entries.find? key = s.entries.find? key) :
    (retrieve key t).answer = (retrieve key s).answer := by
  cases hconsult : FaultRule.consult .retrieve key s.faults with
  | mk e faults =>
    cases e with
    | some e =>
      have hpass : ∀ {u : SecretStore}, u.faults = s.faults →
          (pass .retrieve key).Yields u (.error e) { u with faults } := fun hu => by
        rw [Yields, pass, hu, hconsult]
        exact ⟨rfl, rfl⟩
      exact (hpass hfaults).bind_error.1.trans (hpass rfl).bind_error.1.symm
    | none =>
      have hread : ∀ {u : SecretStore}, u.faults = s.faults →
          (retrieve key u).answer = .ok (u.entries.find? key) := fun {u} hu => by
        have hpass : (pass .retrieve key).Yields u (.ok ()) { u with faults } := by
          rw [Yields, pass, hu, hconsult]
          exact ⟨rfl, rfl⟩
        have hfound := yields_pure (u.entries.find? key) { u with faults }
        exact (hpass.bind ((yields_state _).bind hfound)).1
      rw [hread hfaults, hread rfl, hfind]

/-- A key was removed, or the call failed and left all texts. -/
theorem remove_cases {r : Except CredentialError Bool} (h : (remove key).Yields s r t) :
    ((∃ b, r = .ok b) ∧ ({ s with entries := s.entries.erase key } : SecretStore).Keeps t) ∨
      (∃ e, r = .error e) ∧ s.Keeps t := by
  rcases h.bind_cases with ⟨e, hpass, rfl⟩ | ⟨u, s₁, hpass, hrest⟩
  · exact .inr ⟨⟨e, rfl⟩, keeps_passWrite hpass⟩
  · obtain ⟨hentries, hlisting⟩ := keeps_passWrite hpass
    obtain ⟨rfl, rfl⟩ := hrest
    rw [bind_state, bind_setState]
    exact .inl ⟨⟨_, rfl⟩, by show s₁.entries.erase key = _; rw [hentries], hlisting⟩

/-- The same where it does not count whether the key was there. -/
theorem discard_remove_cases {r : Except CredentialError Unit}
    (h : (Functor.discard (remove key)).Yields s r t) :
    (r = .ok () ∧ ({ s with entries := s.entries.erase key } : SecretStore).Keeps t) ∨
      (∃ e, r = .error e) ∧ s.Keeps t := by
  obtain ⟨q, hremove, rfl⟩ := h.of_map
  rcases remove_cases hremove with ⟨⟨b, rfl⟩, hkeeps⟩ | ⟨⟨e, rfl⟩, hkeeps⟩
  · exact .inl ⟨rfl, hkeeps⟩
  · exact .inr ⟨⟨e, rfl⟩, hkeeps⟩

/-- A removal that answers has removed the key. -/
theorem keeps_of_removed (h : (Functor.discard (remove key)).Yields s (.ok ()) t) :
    ({ s with entries := s.entries.erase key } : SecretStore).Keeps t := by
  rcases discard_remove_cases h with ⟨-, hkeeps⟩ | ⟨⟨e, he⟩, -⟩
  · exact hkeeps
  · cases he

/-- A write leaves all texts but the one that it is about. -/
theorem keepsBut_of_put {value : String} {r : Except CredentialError Unit}
    (h : (put key value).Yields s r t) : KeepsBut key s t := by
  rcases put_cases h with ⟨-, hkeeps⟩ | ⟨-, hkeeps⟩
  · exact (keepsBut_insert s key value).trans (hkeeps.keepsBut key)
  · exact hkeeps.keepsBut key

theorem keepsBut_of_remove {r : Except CredentialError Unit}
    (h : (Functor.discard (remove key)).Yields s r t) : KeepsBut key s t := by
  rcases discard_remove_cases h with ⟨-, hkeeps⟩ | ⟨-, hkeeps⟩
  · exact (keepsBut_erase s key).trans (hkeeps.keepsBut key)
  · exact hkeeps.keepsBut key

/-- Listing leaves all texts, and answers with the keys if it does not fail. -/
theorem keysFrom_cases {start : String} {r : Except CredentialError (List String)}
    (h : (keysFrom start).Yields s r t) :
    s.Keeps t ∧
      (r = .ok (s.entries.keys.filter fun key => start.toList.isPrefixOf key.toList) ∨
        ∃ e, r = .error e) := by
  rcases h.bind_cases with ⟨e, hpass, rfl⟩ | ⟨u, s₁, hpass, hrest⟩
  · exact ⟨keeps_pass hpass, .inr ⟨e, rfl⟩⟩
  · have hkeeps := keeps_pass hpass
    obtain ⟨rfl, rfl⟩ := hrest
    rw [bind_state]
    -- the store itself may be one that cannot list
    split
    · exact ⟨hkeeps, .inl (by rw [← hkeeps.entries_eq]; rfl)⟩
    · exact ⟨hkeeps, .inr ⟨_, rfl⟩⟩

end CredentialStore.SecretStore
