import CredentialStore.Proofs.Op.Respects

/-!
# What an operation reports

The warnings of a sequence are those of its parts, up to the first part that fails. Most operations
report nothing, whatever becomes of them, so that the warnings of a sequence are those of the few
parts that do.

Main statements: `mem_warnings_bind` and `IsSilent.bind`.
-/

namespace CredentialStore.Op

variable {σ α β : Type}

/-- A warning of a sequence is one of its parts. -/
theorem mem_warnings_bind {x : Op σ α} {f : α → Op σ β} {s : σ} {w : Warning}
    (h : w ∈ ((x >>= f) s).warnings) :
    w ∈ (x s).warnings ∨ ∃ a t, x.Yields s (.ok a) t ∧ w ∈ (f a t).warnings := by
  cases hx : (x s).answer with
  | error e =>
    rw [bind_of_error f hx] at h
    exact .inl h
  | ok a =>
    rw [bind_of_ok f hx] at h
    exact (List.mem_append.1 h).imp_right fun hw => ⟨a, _, ⟨hx, rfl⟩, hw⟩

theorem warnings_forM_warn (ws : List Warning) (s : σ) :
    ((ws.forM warn : Op σ Unit) s).warnings = ws := by
  induction ws generalizing s with
  | nil => rfl
  | cons w ws ih =>
    show ((warn w >>= fun _ => ws.forM warn) s).warnings = w :: ws
    rw [bind_of_ok (x := warn w) (a := ()) _ rfl]
    exact congrArg (w :: ·) (ih s)

/-- Reporting goes before whatever comes next. -/
theorem forM_warn_bind (ws : List Warning) (f : Unit → Op σ β) (s : σ) :
    ((ws.forM warn : Op σ Unit) >>= f) s =
      ⟨(f () s).answer, (f () s).state, ws ++ (f () s).warnings⟩ := by
  obtain ⟨hanswer, hstate⟩ := yields_forM_warn ws s
  rw [bind_of_ok f hanswer, hstate, warnings_forM_warn]

/-- Whatever becomes of the operation, it reports nothing. -/
def IsSilent (x : Op σ α) : Prop :=
  ∀ s, (x s).warnings = []

namespace IsSilent

variable {x : Op σ α} {f : α → Op σ β}

theorem pure (a : α) : (Pure.pure a : Op σ α).IsSilent :=
  fun _ => rfl

theorem throw (e : CredentialError) : (MonadExcept.throw e : Op σ α).IsSilent :=
  fun _ => rfl

theorem ofExcept (r : Except CredentialError α) : (Op.ofExcept r : Op σ α).IsSilent :=
  fun _ => rfl

theorem state : (Op.state : Op σ σ).IsSilent :=
  fun _ => rfl

theorem setState (t : σ) : (Op.setState t).IsSilent :=
  fun _ => rfl

theorem bind (hx : x.IsSilent) (hf : ∀ a, (f a).IsSilent) : (x >>= f).IsSilent := by
  intro s
  refine List.eq_nil_iff_forall_not_mem.2 fun w hw => ?_
  rcases mem_warnings_bind hw with hw | ⟨a, t, -, hw⟩
  · rw [hx s] at hw
    cases hw
  · rw [hf a t] at hw
    cases hw

theorem closed : Closed fun _ (x : Op σ _) => x.IsSilent :=
  ⟨.ofExcept, .bind⟩

theorem map (hx : x.IsSilent) (g : α → β) : (g <$> x).IsSilent :=
  closed.map hx g

theorem discard (hx : x.IsSilent) : (Functor.discard x).IsSilent :=
  hx.map _

theorem attempt (hx : x.IsSilent) : (Op.attempt x).IsSilent :=
  fun s => hx s

theorem mapError (hx : x.IsSilent) (g : CredentialError → CredentialError) :
    (Op.mapError g x).IsSilent :=
  fun s => hx s

/-- After a part that is silent, only the rest of a sequence is heard. -/
theorem mem_warnings_bind (hx : x.IsSilent) {s : σ} {w : Warning} (h : w ∈ ((x >>= f) s).warnings) :
    ∃ a t, x.Yields s (.ok a) t ∧ w ∈ (f a t).warnings := by
  refine (Op.mem_warnings_bind h).resolve_left fun hw => ?_
  rw [hx s] at hw
  cases hw

end IsSilent

end CredentialStore.Op
