import CredentialStore.Proofs.Op

/-!
# Operations that correspond

Two operations, perhaps on states of different kinds, correspond if, started in related states, they
answer alike and leave related states: both fail with the same error, or both answer, with related
values. Sequences of operations that correspond correspond, so two runs are compared one step at a
time.

Main statements: `Corresponds.bind`, `Corresponds.attempt` and `Corresponds.zoom`.
-/

namespace CredentialStore.Op

variable {σ τ α β γ δ ε : Type}

/-- Both answers are the same error, or both are values that are related. -/
def AnswersBy (Q : α → β → Prop) : Except ε α → Except ε β → Prop
  | .ok a, .ok b => Q a b
  | .error e, .error f => e = f
  | _, _ => False

theorem AnswersBy.refl {Q : α → α → Prop} (hQ : ∀ a, Q a a) (r : Except ε α) :
    AnswersBy Q r r := by
  cases r with
  | ok a => exact hQ a
  | error e => exact Eq.refl e

theorem AnswersBy.cases {Q : α → β → Prop} {r : Except ε α} {q : Except ε β} (h : AnswersBy Q r q) :
    (∃ e, r = .error e ∧ q = .error e) ∨ ∃ a b, r = .ok a ∧ q = .ok b ∧ Q a b := by
  cases r with
  | ok a =>
    cases q with
    | ok b => exact .inr ⟨a, b, rfl, rfl, h⟩
    | error f => exact h.elim
  | error e =>
    cases q with
    | ok b => exact h.elim
    | error f => exact .inl ⟨e, rfl, congrArg _ (Eq.symm h)⟩

theorem AnswersBy.mono {Q Q' : α → β → Prop} {r : Except ε α} {q : Except ε β}
    (h : AnswersBy Q r q) (hQ : ∀ a b, Q a b → Q' a b) : AnswersBy Q' r q := by
  rcases h.cases with ⟨e, rfl, rfl⟩ | ⟨a, b, rfl, rfl, hab⟩
  · exact Eq.refl e
  · exact hQ a b hab

theorem AnswersBy.eq {r q : Except ε α} (h : AnswersBy Eq r q) : r = q := by
  rcases h.cases with ⟨e, rfl, rfl⟩ | ⟨a, b, rfl, rfl, hab⟩
  · rfl
  · exact congrArg _ hab

/-- Both are nothing, or both are values that are related. -/
theorem optionRel_cases {Q : α → β → Prop} {a : Option α} {b : Option β} (h : Option.Rel Q a b) :
    (a = none ∧ b = none) ∨ ∃ x y, a = some x ∧ b = some y ∧ Q x y := by
  cases h with
  | none => exact .inl ⟨rfl, rfl⟩
  | some h => exact .inr ⟨_, _, rfl, rfl, h⟩

/-- Started in related states, the operations answer alike and leave related states. -/
def Corresponds (R : σ → τ → Prop) (Q : α → β → Prop) (x : Op σ α) (y : Op τ β) : Prop :=
  ∀ ⦃s t⦄, R s t → ∃ r q s' t', x.Yields s r s' ∧ y.Yields t q t' ∧ AnswersBy Q r q ∧ R s' t'

namespace Corresponds

variable {R : σ → τ → Prop} {Q : α → β → Prop} {Q' : γ → δ → Prop} {x : Op σ α} {y : Op τ β}

theorem mono {P : α → β → Prop} (h : Corresponds R Q x y) (hP : ∀ a b, Q a b → P a b) :
    Corresponds R P x y := by
  intro s t hR
  obtain ⟨r, q, s', t', hs, ht, hanswers, hR'⟩ := h hR
  exact ⟨r, q, s', t', hs, ht, hanswers.mono hP, hR'⟩

/-- What a run of the first operation tells about the second one. -/
theorem exists_of_yields (h : Corresponds R Q x y) {s s' : σ} {t : τ} (hR : R s t)
    {r : Except CredentialError α} (hx : x.Yields s r s') :
    ∃ q t', y.Yields t q t' ∧ AnswersBy Q r q ∧ R s' t' := by
  obtain ⟨r', q, s'', t', hx', hy, hanswers, hR'⟩ := h hR
  obtain ⟨rfl, rfl⟩ := hx.unique hx'
  exact ⟨q, t', hy, hanswers, hR'⟩

theorem pure {a : α} {b : β} (h : Q a b) :
    Corresponds R Q (Pure.pure a : Op σ α) (Pure.pure b : Op τ β) :=
  fun s t hR => ⟨_, _, s, t, yields_pure a s, yields_pure b t, h, hR⟩

theorem throw (e : CredentialError) :
    Corresponds R Q (MonadExcept.throw e : Op σ α) (MonadExcept.throw e : Op τ β) :=
  fun s t hR => ⟨_, _, s, t, yields_throw e s, yields_throw e t, Eq.refl e, hR⟩

theorem ofExcept {r : Except CredentialError α} {q : Except CredentialError β}
    (h : AnswersBy Q r q) : Corresponds R Q (Op.ofExcept r : Op σ α) (Op.ofExcept q : Op τ β) :=
  fun s t hR => ⟨r, q, s, t, yields_ofExcept r s, yields_ofExcept q t, h, hR⟩

theorem state : Corresponds R R (Op.state : Op σ σ) (Op.state : Op τ τ) :=
  fun s t hR => ⟨_, _, s, t, yields_state s, yields_state t, hR, hR⟩

theorem setState {s : σ} {t : τ} (h : R s t) :
    Corresponds R Eq (Op.setState s : Op σ Unit) (Op.setState t : Op τ Unit) :=
  fun u v _ => ⟨_, _, s, t, yields_setState u s, yields_setState v t, Eq.refl (), h⟩

theorem warn (w w' : Warning) : Corresponds R Eq (Op.warn w : Op σ Unit) (Op.warn w' : Op τ Unit) :=
  fun s t hR => ⟨_, _, s, t, yields_warn w s, yields_warn w' t, Eq.refl (), hR⟩

theorem bind {f : α → Op σ γ} {g : β → Op τ δ} (hx : Corresponds R Q x y)
    (hf : ∀ a b, Q a b → Corresponds R Q' (f a) (g b)) :
    Corresponds R Q' (x >>= f) (y >>= g) := by
  intro s t hR
  obtain ⟨r, q, s', t', hs, ht, hanswers, hR'⟩ := hx hR
  -- both go on, or neither does
  rcases hanswers.cases with ⟨e, rfl, rfl⟩ | ⟨a, b, rfl, rfl, hQ⟩
  · exact ⟨_, _, s', t', hs.bind_error, ht.bind_error, hanswers, hR'⟩
  · obtain ⟨r, q, s'', t'', hs', ht', hanswers', hR''⟩ := hf a b hQ hR'
    exact ⟨r, q, s'', t'', hs.bind hs', ht.bind ht', hanswers', hR''⟩

/-- The second parts may start from all that is known of the states. -/
theorem bind_state {f : σ → Op σ γ} {g : τ → Op τ δ}
    (hf : ∀ s t, R s t → Corresponds R Q' (f s) (g t)) :
    Corresponds R Q' (Op.state >>= f) (Op.state >>= g) :=
  state.bind hf

theorem map {f : α → γ} {g : β → δ} (hx : Corresponds R Q x y)
    (hf : ∀ a b, Q a b → Q' (f a) (g b)) : Corresponds R Q' (f <$> x) (g <$> y) :=
  hx.bind fun a b hQ => .pure (hf a b hQ)

theorem discard (hx : Corresponds R Q x y) :
    Corresponds R Eq (Functor.discard x) (Functor.discard y) :=
  hx.map fun _ _ _ => rfl

theorem attempt (hx : Corresponds R Q x y) :
    Corresponds R (AnswersBy Q) (Op.attempt x) (Op.attempt y) := by
  intro s t hR
  obtain ⟨r, q, s', t', hs, ht, hanswers, hR'⟩ := hx hR
  exact ⟨_, _, s', t', hs.attempt, ht.attempt, hanswers, hR'⟩

/-- Neither run is affected by what it reports. -/
theorem forM_warn (ws ws' : List Warning) :
    Corresponds R Eq (ws.forM Op.warn : Op σ Unit) (ws'.forM Op.warn : Op τ Unit) :=
  fun s t hR =>
    ⟨_, _, s, t, yields_forM_warn ws s, yields_forM_warn ws' t, Eq.refl (), hR⟩

/-- Operations on parts that correspond, where the parts decide the relation. -/
theorem zoom {σ' τ' : Type} {R' : σ' → τ' → Prop} {part : σ' → σ} {put : σ' → σ → σ'}
    {part' : τ' → τ} {put' : τ' → τ → τ'} (hx : Corresponds R Q x y)
    (hpart : ∀ {s t}, R' s t → R (part s) (part' t))
    (hput : ∀ {s t u v}, R' s t → R u v → R' (put s u) (put' t v)) :
    Corresponds R' Q (Op.zoom part put x) (Op.zoom part' put' y) := by
  intro s t hR
  obtain ⟨r, q, u, v, hu, hv, hanswers, hR'⟩ := hx (hpart hR)
  exact ⟨r, q, _, _, hu.zoom, hv.zoom, hanswers, hput hR hR'⟩

end Corresponds

end CredentialStore.Op
