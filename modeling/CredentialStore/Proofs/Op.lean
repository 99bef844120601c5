import CredentialStore.Op

/-!
# What an operation yields

The answer of an operation and the state that it leaves, without the warnings that it reports. The
rules follow the way operations are put together: `Yields.bind` and `Yields.bind_error` run a
sequence forwards, `Yields.bind_cases`, `Yields.of_bind` and `Yields.of_bind_attempt` take a
finished one apart.
-/

namespace CredentialStore.Op

variable {σ τ α β : Type}

/-- Started in `s`, the operation answers `r` and leaves `t`. -/
def Yields (x : Op σ α) (s : σ) (r : Except CredentialError α) (t : σ) : Prop :=
  (x s).answer = r ∧ (x s).state = t

theorem yields_self (x : Op σ α) (s : σ) : x.Yields s (x s).answer (x s).state :=
  ⟨rfl, rfl⟩

theorem yields_pure (a : α) (s : σ) : (pure a : Op σ α).Yields s (.ok a) s :=
  ⟨rfl, rfl⟩

theorem yields_throw (e : CredentialError) (s : σ) : (throw e : Op σ α).Yields s (.error e) s :=
  ⟨rfl, rfl⟩

theorem yields_ofExcept (r : Except CredentialError α) (s : σ) : (ofExcept r).Yields s r s :=
  ⟨rfl, rfl⟩

theorem yields_state (s : σ) : (state : Op σ σ).Yields s (.ok s) s :=
  ⟨rfl, rfl⟩

theorem yields_setState (s t : σ) : (setState t).Yields s (.ok ()) t :=
  ⟨rfl, rfl⟩

theorem yields_warn (w : Warning) (s : σ) : (warn w).Yields s (.ok ()) s :=
  ⟨rfl, rfl⟩

theorem map_apply (f : α → β) (x : Op σ α) (s : σ) :
    (f <$> x) s = ⟨(x s).answer.map f, (x s).state, (x s).warnings⟩ := by
  show (x >>= fun a => pure (f a)) s = _
  -- an error is passed on as it is
  cases hx : (x s).answer with
  | error e =>
    rw [bind_of_error _ hx]
    rfl
  | ok a =>
    rw [bind_of_ok _ hx, pure_apply]
    dsimp only
    rw [List.append_nil]
    rfl

namespace Yields

variable {x : Op σ α} {f : α → Op σ β} {s t u : σ}

theorem bind {a : α} {r : Except CredentialError β} (hx : x.Yields s (.ok a) t)
    (hf : (f a).Yields t r u) : (x >>= f).Yields s r u := by
  obtain ⟨hans, rfl⟩ := hx
  rw [Yields, bind_of_ok f hans]
  exact hf

theorem bind_error {e : CredentialError} (hx : x.Yields s (.error e) t) :
    (x >>= f).Yields s (.error e) t := by
  obtain ⟨hans, rfl⟩ := hx
  rw [Yields, bind_of_error f hans]
  exact ⟨rfl, rfl⟩

theorem exists_bind {a : α} (hx : x.Yields s (.ok a) t) (hf : ∃ r, (f a).Yields t r u) :
    ∃ r, (x >>= f).Yields s r u :=
  hf.imp fun _ => hx.bind

/-- A finished sequence ended with its first part or went on with the second. -/
theorem bind_cases {r : Except CredentialError β} (h : (x >>= f).Yields s r u) :
    (∃ e, x.Yields s (.error e) u ∧ r = .error e) ∨
      ∃ a t, x.Yields s (.ok a) t ∧ (f a).Yields t r u := by
  obtain ⟨hans, hstate⟩ := h
  -- the answer of the first part tells which of the two it was
  cases hx : (x s).answer with
  | error e =>
    rw [bind_of_error f hx] at hans hstate
    exact .inl ⟨e, ⟨hx, hstate⟩, hans.symm⟩
  | ok a =>
    rw [bind_of_ok f hx] at hans hstate
    exact .inr ⟨a, _, ⟨hx, rfl⟩, hans, hstate⟩

/-- An operation yields one answer and one state. -/
theorem unique {r r' : Except CredentialError α} (h : x.Yields s r t) (h' : x.Yields s r' u) :
    r = r' ∧ t = u :=
  ⟨h.1.symm.trans h'.1, h.2.symm.trans h'.2⟩

/-- What is left of a sequence whose first part answers. -/
theorem of_bind {a : α} {r : Except CredentialError β} (h : (x >>= f).Yields s r u)
    (hx : x.Yields s (.ok a) t) : (f a).Yields t r u := by
  rcases h.bind_cases with ⟨e, he, -⟩ | ⟨b, t', hb, hrest⟩
  · -- the first part would have failed
    cases (hx.unique he).1
  · obtain ⟨hab, rfl⟩ := hx.unique hb
    cases hab
    exact hrest

/-- A sequence that answered went through both parts. -/
theorem bind_ok {b : β} (h : (x >>= f).Yields s (.ok b) u) :
    ∃ a t, x.Yields s (.ok a) t ∧ (f a).Yields t (.ok b) u := by
  rcases h.bind_cases with ⟨e, -, he⟩ | hok
  · cases he
  · exact hok

theorem map {a : α} (g : α → β) (hx : x.Yields s (.ok a) t) :
    (g <$> x).Yields s (.ok (g a)) t :=
  hx.bind (yields_pure _ _)

theorem map_error {e : CredentialError} (g : α → β) (hx : x.Yields s (.error e) t) :
    (g <$> x).Yields s (.error e) t :=
  hx.bind_error

/-- A changed answer has come from an answer. -/
theorem of_map {g : α → β} {r : Except CredentialError β} (h : (g <$> x).Yields s r t) :
    ∃ q, x.Yields s q t ∧ r = q.map g := by
  rw [Yields, map_apply] at h
  exact ⟨_, ⟨rfl, h.2⟩, h.1.symm⟩

theorem discard {a : α} (hx : x.Yields s (.ok a) t) :
    (Functor.discard x).Yields s (.ok ()) t :=
  hx.map _

theorem of_discard {r : Except CredentialError Unit} (h : (Functor.discard x).Yields s r t) :
    ∃ q, x.Yields s q t ∧ r = q.map fun _ => () :=
  h.of_map

theorem attempt {r : Except CredentialError α} (hx : x.Yields s r t) :
    (attempt x).Yields s (.ok r) t :=
  ⟨congrArg Except.ok hx.1, hx.2⟩

/-- An attempt answers, whatever it comes to. -/
theorem of_attempt {q : Except CredentialError (Except CredentialError α)}
    (h : (Op.attempt x).Yields s q t) : ∃ r, x.Yields s r t ∧ q = .ok r :=
  ⟨_, ⟨rfl, h.2⟩, h.1.symm⟩

/-- What comes after an attempt goes on with whatever that came to. -/
theorem of_bind_attempt {g : Except CredentialError α → Op σ β} {r : Except CredentialError β}
    (h : (Op.attempt x >>= g).Yields s r u) : ∃ q t, x.Yields s q t ∧ (g q).Yields t r u :=
  ⟨_, _, yields_self x s, h.of_bind (yields_self x s).attempt⟩

theorem mapError {a : α} (g : CredentialError → CredentialError) (hx : x.Yields s (.ok a) t) :
    (mapError g x).Yields s (.ok a) t := by
  obtain ⟨hans, rfl⟩ := hx
  refine ⟨?_, rfl⟩
  show (x s).answer.mapError g = .ok a
  rw [hans]
  rfl

/-- A changed error has come from an error. -/
theorem of_mapError {g : CredentialError → CredentialError} {r : Except CredentialError α}
    (h : (Op.mapError g x).Yields s r t) : ∃ q, x.Yields s q t ∧ r = q.mapError g :=
  ⟨_, ⟨rfl, h.2⟩, h.1.symm⟩

theorem zoom {r : Except CredentialError α} {part : τ → σ} {put : τ → σ → τ} {w : τ}
    (hx : x.Yields (part w) r t) : (zoom part put x).Yields w r (put w t) :=
  ⟨hx.1, congrArg (put w) hx.2⟩

/-- An operation on a part has come from one on the part alone. -/
theorem of_zoom {r : Except CredentialError α} {part : τ → σ} {put : τ → σ → τ} {w w' : τ}
    (h : (Op.zoom part put x).Yields w r w') : ∃ t, x.Yields (part w) r t ∧ w' = put w t :=
  ⟨(x (part w)).state, ⟨h.1, rfl⟩, h.2.symm⟩

end Yields

/-- An answer is changed on a part as on the whole. -/
theorem map_zoom (part : τ → σ) (put : τ → σ → τ) (f : α → β) (x : Op σ α) :
    f <$> zoom part put x = zoom part put (f <$> x) := by
  funext w
  -- both sides run the operation on the part and change its answer
  have hpart := map_apply f x (part w)
  rw [map_apply]
  show _ = (⟨((f <$> x) (part w)).answer, put w ((f <$> x) (part w)).state,
    ((f <$> x) (part w)).warnings⟩ : Outcome τ β)
  rw [hpart]
  rfl

/-- Reporting warnings changes nothing. -/
theorem yields_forM_warn (ws : List Warning) (s : σ) :
    (ws.forM warn : Op σ Unit).Yields s (.ok ()) s := by
  induction ws with
  | nil => exact yields_pure () s
  | cons w ws ih => exact (yields_warn w s).bind ih

end CredentialStore.Op
