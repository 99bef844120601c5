import CredentialStore.Proofs.Op

/-!
# Errors of a kind

Started where a property holds, an operation leaves it, and where it fails, it is with an error of a
kind. What parts fail with, their sequence fails with; an error that is caught and thrown again
under another name is of the kind of its new name.

Main statements: `FailsAs.bind`, `FailsAs.bind_attempt` and `FailsAs.zoom`.
-/

namespace CredentialStore.Op

variable {σ τ α β : Type}

/-- The operation keeps a property of states and fails only with errors of a kind. -/
def FailsAs (P : σ → Prop) (E : CredentialError → Prop) (x : Op σ α) : Prop :=
  ∀ ⦃s r t⦄, P s → x.Yields s r t → P t ∧ ∀ e, r = .error e → E e

namespace FailsAs

variable {P : σ → Prop} {E F : CredentialError → Prop} {x : Op σ α} {f : α → Op σ β}

theorem ofExcept {r : Except CredentialError α} (h : ∀ e, r = .error e → E e) :
    (Op.ofExcept r : Op σ α).FailsAs P E := by
  rintro s q t hs ⟨rfl, rfl⟩
  exact ⟨hs, h⟩

theorem pure (a : α) : (Pure.pure a : Op σ α).FailsAs P E :=
  ofExcept (r := .ok a) nofun

theorem throw {e : CredentialError} (h : E e) : (MonadExcept.throw e : Op σ α).FailsAs P E :=
  ofExcept (r := .error e) fun _ he => Except.error.inj he ▸ h

theorem warn (w : Warning) : (Op.warn w : Op σ Unit).FailsAs P E := by
  rintro s q t hs ⟨rfl, rfl⟩
  exact ⟨hs, nofun⟩

theorem forM_warn (ws : List Warning) : (ws.forM Op.warn : Op σ Unit).FailsAs P E := by
  intro s q t hs h
  obtain ⟨rfl, rfl⟩ := (yields_forM_warn ws s).unique h
  exact ⟨hs, nofun⟩

theorem setState {t : σ} (h : P t) : (Op.setState t).FailsAs P E := by
  rintro s q u - ⟨rfl, rfl⟩
  exact ⟨h, nofun⟩

/-- What goes on with the state knows that the property holds of it. -/
theorem bind_state {f : σ → Op σ β} (hf : ∀ s, P s → (f s).FailsAs P E) :
    (Op.state >>= f).FailsAs P E :=
  fun s _ _ hs h => hf s hs hs (h.of_bind (yields_state s))

theorem bind (hx : x.FailsAs P E) (hf : ∀ a, (f a).FailsAs P E) : (x >>= f).FailsAs P E := by
  intro s r u hs h
  rcases h.bind_cases with ⟨e, hfirst, rfl⟩ | ⟨a, t, hfirst, hrest⟩
  · obtain ⟨hu, he⟩ := hx hs hfirst
    exact ⟨hu, fun e' he' => Except.error.inj he' ▸ he e rfl⟩
  · exact hf a (hx hs hfirst).1 hrest

/-- What goes on after an attempt knows of which kind the error was, if there was one. -/
theorem bind_attempt {g : Except CredentialError α → Op σ β} (hx : x.FailsAs P F)
    (hok : ∀ a, (g (.ok a)).FailsAs P E) (herror : ∀ e, F e → (g (.error e)).FailsAs P E) :
    (Op.attempt x >>= g).FailsAs P E := by
  intro s r u hs h
  obtain ⟨q, t, hfirst, hrest⟩ := h.of_bind_attempt
  obtain ⟨ht, hq⟩ := hx hs hfirst
  cases q with
  | ok a => exact hok a ht hrest
  | error e => exact herror e (hq e rfl) ht hrest

theorem map (hx : x.FailsAs P E) (g : α → β) : (g <$> x).FailsAs P E :=
  hx.bind fun a => .pure (g a)

theorem discard (hx : x.FailsAs P E) : (Functor.discard x).FailsAs P E :=
  hx.map _

theorem mapError {g : CredentialError → CredentialError} (hx : x.FailsAs P F)
    (hg : ∀ e, F e → E (g e)) : (Op.mapError g x).FailsAs P E := by
  intro s r t hs h
  obtain ⟨q, hq, rfl⟩ := h.of_mapError
  obtain ⟨ht, he⟩ := hx hs hq
  refine ⟨ht, fun e hmapped => ?_⟩
  cases q with
  | ok a => cases hmapped
  | error e' =>
    cases hmapped
    exact hg e' (he e' rfl)

/-- On a part it fails as on the part alone. -/
theorem zoom {Q : τ → Prop} {part : τ → σ} {put : τ → σ → τ} (hx : x.FailsAs P E)
    (hpart : ∀ w, Q w → P (part w)) (hput : ∀ w s, Q w → P s → Q (put w s)) :
    (Op.zoom part put x).FailsAs Q E := by
  intro w r w' hw h
  obtain ⟨t, ht, rfl⟩ := h.of_zoom
  obtain ⟨hkept, he⟩ := hx (hpart w hw) ht
  exact ⟨hput w t hw hkept, he⟩

end FailsAs

end CredentialStore.Op
