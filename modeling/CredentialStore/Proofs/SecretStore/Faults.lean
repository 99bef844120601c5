import CredentialStore.Proofs.SecretStore.Calls

/-!
# Calls that fail a few times

Rules each of which fails a number of calls fail so many calls in all. As long as a call answers, as
many may fail after it as before; one that fails has used up one failure. So where one call may fail
at most, everything after a failed call succeeds.

Main statements: `put_spends`, `retrieve_spends`, `remove_spends` and `Spends.bind`.
-/

namespace CredentialStore

namespace FaultRule

/-- How many calls the rules still fail, those without a number left out. -/
def remaining : List FaultRule → Nat
  | [] => 0
  | r :: rest => r.times.getD 0 + remaining rest

/-- At most so many calls fail: every rule has a number, and they add up to no more. -/
def FailAtMost (n : Nat) (rules : List FaultRule) : Prop :=
  (∀ r ∈ rules, r.times ≠ none) ∧ remaining rules ≤ n

instance (n : Nat) (rules : List FaultRule) : Decidable (FailAtMost n rules) :=
  inferInstanceAs (Decidable (_ ∧ _))

/-- A failed call is counted off, and a call that passes is not. -/
theorem remaining_consult (call : SecretCall) (key : String) {rules : List FaultRule}
    (h : ∀ r ∈ rules, r.times ≠ none) :
    (∀ r ∈ (consult call key rules).2, r.times ≠ none) ∧
      remaining rules =
        remaining (consult call key rules).2 + (consult call key rules).1.toList.length := by
  induction rules with
  | nil => exact ⟨fun r hr => (List.not_mem_nil hr).elim, rfl⟩
  | cons r rest ih =>
    obtain ⟨hends, hcount⟩ := ih fun x hx => h x (List.mem_cons_of_mem r hx)
    rw [consult]
    split
    · -- the first rule fires, so it had a number above zero
      rename_i hfires
      obtain ⟨k, hk⟩ := Option.ne_none_iff_exists'.1 (h r List.mem_cons_self)
      have hpos : k ≠ 0 := by
        rintro rfl
        simp [applies, hk] at hfires
      refine ⟨fun x hx => ?_, ?_⟩
      · rcases List.mem_cons.1 hx with rfl | hx
        · simp [hk]
        · exact h x (List.mem_cons_of_mem r hx)
      · rw [remaining, hk]
        show k + remaining rest = (k - 1) + remaining rest + 1
        omega
    · -- it lets the call pass to the others and keeps its number
      have htimes : (if r.applies call key then { r with skip := r.skip - 1 } else r).times =
          r.times := by
        split <;> rfl
      refine ⟨fun x hx => ?_, ?_⟩
      · rcases List.mem_cons.1 hx with rfl | hx
        · rw [htimes]
          exact h r List.mem_cons_self
        · exact hends x hx
      · show remaining (r :: rest) = remaining (_ :: (consult call key rest).2) +
          (consult call key rest).1.toList.length
        rw [remaining, remaining, htimes, hcount]
        omega

end FaultRule

namespace SecretStore

open Op

variable {α β : Type} {s t : SecretStore} {key : String} {n : Nat}

/-- At most so many calls of the store fail. -/
structure FailsAtMost (s : SecretStore) (n : Nat) : Prop where
  faults : FaultRule.FailAtMost n s.faults
  rejected_eq : s.rejected = none

theorem FailsAtMost.mono {m : Nat} (h : s.FailsAtMost n) (hle : n ≤ m) : s.FailsAtMost m :=
  ⟨⟨h.faults.1, Nat.le_trans h.faults.2 hle⟩, h.rejected_eq⟩

theorem Responds.failsAtMost (h : s.Responds) (n : Nat) : s.FailsAtMost n := by
  refine ⟨?_, h.rejected_eq⟩
  rw [h.faults_eq]
  exact ⟨fun r hr => (List.not_mem_nil hr).elim, Nat.zero_le n⟩

/-- With an answer as many calls may fail afterwards as before, with an error one less. -/
def Spends (n : Nat) : Except CredentialError α → SecretStore → Prop
  | .ok _, t => t.FailsAtMost n
  | .error _, t => ∃ m, n = m + 1 ∧ t.FailsAtMost m

namespace Spends

variable {r : Except CredentialError α}

theorem failsAtMost (h : Spends n r t) : t.FailsAtMost n := by
  cases r with
  | ok a => exact h
  | error e =>
    obtain ⟨m, rfl, hm⟩ := h
    exact hm.mono (Nat.le_succ m)

/-- Where one call may fail, none does after an error. -/
theorem of_error {e : CredentialError} (h : Spends 1 (.error e : Except CredentialError α) t) :
    t.FailsAtMost 0 := by
  obtain ⟨m, hm, ht⟩ := h
  obtain rfl : m = 0 := by omega
  exact ht

/-- Where no call may fail, there is an answer. -/
theorem exists_ok (h : Spends 0 r t) : ∃ a, r = .ok a := by
  cases r with
  | ok a => exact ⟨a, rfl⟩
  | error e =>
    obtain ⟨m, hm, -⟩ := h
    omega

theorem map {g : α → β} (h : Spends n r t) : Spends n (r.map g) t := by
  cases r <;> exact h

theorem mapError {g : CredentialError → CredentialError} (h : Spends n r t) :
    Spends n (r.mapError g) t := by
  cases r <;> exact h

theorem bind {x : Op SecretStore α} {f : α → Op SecretStore β} {q : Except CredentialError β}
    (h : (x >>= f).Yields s q t) (hx : ∀ {p u}, x.Yields s p u → Spends n p u)
    (hf : ∀ {a u}, x.Yields s (.ok a) u → u.FailsAtMost n → (f a).Yields u q t → Spends n q t) :
    Spends n q t := by
  rcases h.bind_cases with ⟨e, hfirst, rfl⟩ | ⟨a, u, hfirst, hrest⟩
  · exact hx hfirst
  · exact hf hfirst (hx hfirst) hrest

end Spends

/-! ## Calls -/

section Calls

variable (h : s.FailsAtMost n)

include h

theorem pass_spends {call : SecretCall} {r : Except CredentialError Unit}
    (hpass : (pass call key).Yields s r t) : Spends n r t := by
  have hends := h.faults.1
  have hle := h.faults.2
  obtain ⟨hends', hcount⟩ := FaultRule.remaining_consult call key hends
  obtain ⟨rfl, rfl⟩ := hpass
  unfold pass
  -- the rules after the call have what they had, or one failure less
  cases hconsult : FaultRule.consult call key s.faults with
  | mk e faults =>
    rw [hconsult] at hends' hcount
    cases e with
    | none => exact ⟨⟨hends', Nat.le_trans (Nat.le_of_eq hcount.symm) hle⟩, h.rejected_eq⟩
    | some e =>
      have hcount : FaultRule.remaining s.faults = FaultRule.remaining faults + 1 := hcount
      exact ⟨n - 1, by omega, ⟨hends', by show FaultRule.remaining faults ≤ n - 1; omega⟩,
        h.rejected_eq⟩

theorem passWrite_spends {call : SecretCall} {r : Except CredentialError Unit}
    (hpass : (passWrite call key).Yields s r t) : Spends n r t := by
  refine Spends.bind hpass (pass_spends h) fun {_ u} _ hu hrest => ?_
  -- nothing is rejected
  have hrest := hrest.of_bind (yields_state u)
  rw [rejects, hu.rejected_eq] at hrest
  obtain ⟨rfl, rfl⟩ := (yields_pure () u).unique hrest
  exact hu

theorem put_spends {value : String} {r : Except CredentialError Unit}
    (hput : (put key value).Yields s r t) : Spends n r t := by
  refine Spends.bind hput (passWrite_spends h) fun {_ u} _ hu hrest => ?_
  obtain ⟨rfl, rfl⟩ := (yields_setState u _).unique (hrest.of_bind (yields_state u))
  exact ⟨hu.faults, hu.rejected_eq⟩

theorem retrieve_spends {r : Except CredentialError (Option String)}
    (hretrieve : (retrieve key).Yields s r t) : Spends n r t := by
  refine Spends.bind hretrieve (pass_spends h) fun {_ u} _ hu hrest => ?_
  obtain ⟨rfl, rfl⟩ := (yields_pure _ u).unique (hrest.of_bind (yields_state u))
  exact hu

theorem remove_spends {r : Except CredentialError Bool} (hremove : (remove key).Yields s r t) :
    Spends n r t := by
  refine Spends.bind hremove (passWrite_spends h) fun {_ u} _ hu hrest => ?_
  have hrest := (hrest.of_bind (yields_state u)).of_bind (yields_setState u _)
  obtain ⟨rfl, rfl⟩ := (yields_pure _ _).unique hrest
  exact ⟨hu.faults, hu.rejected_eq⟩

theorem discard_remove_spends {r : Except CredentialError Unit}
    (hdiscard : (Functor.discard (remove key)).Yields s r t) : Spends n r t := by
  obtain ⟨q, hremove, rfl⟩ := hdiscard.of_map
  exact (remove_spends h hremove).map

end Calls

end SecretStore

end CredentialStore
