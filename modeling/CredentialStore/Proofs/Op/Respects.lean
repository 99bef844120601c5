import CredentialStore.Proofs.Op.Corresponds

/-!
# Relations that operations respect

An operation respects a relation of states if, started in related states, it answers the same and
leaves related states: it corresponds to itself. Relations are respected by whatever is put together
from operations that respect them, so what is known of the parts is known of the whole. A property
that an operation preserves is the special case of one and the same state.

Main statements: `respects_iff_corresponds`, `Respects.bind`, `Respects.closed` and `preserves_iff`.
-/

namespace CredentialStore.Op

variable {σ α β : Type}

/-- Started in related states, the operation answers the same and leaves related states. -/
def Respects (R : σ → σ → Prop) (x : Op σ α) : Prop :=
  ∀ ⦃s t⦄, R s t → ∃ r s' t', x.Yields s r s' ∧ x.Yields t r t' ∧ R s' t'

/-- Where the states are of one kind, what respects a relation is what corresponds to itself. -/
theorem respects_iff_corresponds {R : σ → σ → Prop} {x : Op σ α} :
    x.Respects R ↔ Corresponds R Eq x x := by
  constructor
  · intro h s t hR
    obtain ⟨r, s', t', hs, ht, hR'⟩ := h hR
    exact ⟨r, r, s', t', hs, ht, .refl (fun _ => rfl) r, hR'⟩
  · intro h s t hR
    obtain ⟨r, q, s', t', hs, ht, hanswers, hR'⟩ := h hR
    obtain rfl := hanswers.eq
    exact ⟨r, s', t', hs, ht, hR'⟩

namespace Respects

variable {R : σ → σ → Prop} {x : Op σ α} {f : α → Op σ β}

theorem answer_eq (h : x.Respects R) {s t : σ} (hR : R s t) : (x s).answer = (x t).answer := by
  obtain ⟨r, s', t', hs, ht, -⟩ := h hR
  exact hs.1.trans ht.1.symm

theorem state (h : x.Respects R) {s t : σ} (hR : R s t) : R (x s).state (x t).state := by
  obtain ⟨r, s', t', ⟨-, rfl⟩, ⟨-, rfl⟩, hR'⟩ := h hR
  exact hR'

theorem pure (a : α) : (Pure.pure a : Op σ α).Respects R :=
  respects_iff_corresponds.2 (.pure rfl)

theorem throw (e : CredentialError) : (MonadExcept.throw e : Op σ α).Respects R :=
  respects_iff_corresponds.2 (.throw e)

theorem ofExcept (r : Except CredentialError α) : (Op.ofExcept r : Op σ α).Respects R :=
  respects_iff_corresponds.2 (.ofExcept (.refl (fun _ => rfl) r))

theorem warn (w : Warning) : (Op.warn w : Op σ Unit).Respects R :=
  respects_iff_corresponds.2 (.warn w w)

theorem bind (hx : x.Respects R) (hf : ∀ a, (f a).Respects R) : (x >>= f).Respects R := by
  refine respects_iff_corresponds.2 ((respects_iff_corresponds.1 hx).bind ?_)
  rintro a _ rfl
  exact respects_iff_corresponds.1 (hf a)

/-- Two ways to the same end. -/
theorem either (b : Bool) {y : Op σ α} (hx : x.Respects R) (hy : y.Respects R)
    (hf : ∀ a, (f a).Respects R) : (if b = true then x >>= f else y >>= f).Respects R := by
  cases b with
  | true => exact hx.bind hf
  | false => exact hy.bind hf

theorem map (hx : x.Respects R) (g : α → β) : (g <$> x).Respects R :=
  respects_iff_corresponds.2 ((respects_iff_corresponds.1 hx).map fun _ _ => congrArg g)

theorem discard (hx : x.Respects R) : (Functor.discard x).Respects R :=
  respects_iff_corresponds.2 (respects_iff_corresponds.1 hx).discard

theorem attempt (hx : x.Respects R) : (Op.attempt x).Respects R :=
  respects_iff_corresponds.2 ((respects_iff_corresponds.1 hx).attempt.mono fun _ _ => AnswersBy.eq)

theorem mapError (hx : x.Respects R) (g : CredentialError → CredentialError) :
    (Op.mapError g x).Respects R := by
  intro s t h
  obtain ⟨r, s', t', ⟨hs, rfl⟩, ⟨ht, rfl⟩, h'⟩ := hx h
  exact ⟨r.mapError g, _, _, ⟨congrArg (Except.mapError g) hs, rfl⟩,
    ⟨congrArg (Except.mapError g) ht, rfl⟩, h'⟩

theorem forM {g : α → Op σ Unit} (hg : ∀ a, (g a).Respects R) (l : List α) :
    (l.forM g : Op σ Unit).Respects R := by
  induction l with
  | nil => exact .pure ()
  | cons a l ih => exact (hg a).bind fun _ => ih

end Respects

/-! ## Kinds of operations -/

/-- A kind of operations to which a sequence belongs if its parts do. -/
structure Closed (C : ∀ α : Type, Op σ α → Prop) : Prop where
  ofExcept : ∀ {α} (r : Except CredentialError α), C α (Op.ofExcept r)
  bind : ∀ {α β} {x : Op σ α} {f : α → Op σ β}, C α x → (∀ a, C β (f a)) → C β (x >>= f)

namespace Closed

variable {C : ∀ α : Type, Op σ α → Prop} (h : Closed C)

include h

theorem pure (a : α) : C α (Pure.pure a) :=
  h.ofExcept (.ok a)

theorem throw (e : CredentialError) : C α (MonadExcept.throw e) :=
  h.ofExcept (.error e)

theorem map {x : Op σ α} (hx : C α x) (g : α → β) : C β (g <$> x) :=
  h.bind hx fun a => h.pure (g a)

end Closed

theorem Respects.closed (R : σ → σ → Prop) : Closed fun _ (x : Op σ _) => x.Respects R :=
  ⟨.ofExcept, .bind⟩

/-! ## Properties -/

/-- Both states are one that has the property. -/
def Both (P : σ → Prop) (s t : σ) : Prop :=
  s = t ∧ P s

/-- Where a state has the property, so has what the operation leaves of it. -/
abbrev Preserves (P : σ → Prop) (x : Op σ α) : Prop :=
  x.Respects (Both P)

theorem preserves_iff {P : σ → Prop} {x : Op σ α} :
    x.Preserves P ↔ ∀ ⦃s r t⦄, x.Yields s r t → P s → P t := by
  constructor
  · rintro h s r t ⟨-, rfl⟩ hs
    exact (h.state ⟨rfl, hs⟩).2
  · rintro h s t ⟨rfl, hs⟩
    exact ⟨_, _, _, yields_self x s, yields_self x s, rfl, h (yields_self x s) hs⟩

theorem Preserves.of_yields {P : σ → Prop} {x : Op σ α} (h : x.Preserves P) {s t : σ}
    {r : Except CredentialError α} (hx : x.Yields s r t) (hs : P s) : P t :=
  preserves_iff.1 h hx hs

end CredentialStore.Op
