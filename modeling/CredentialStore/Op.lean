import CredentialStore.Warning

/-!
# Operations on a store

An operation reads and changes a state, reports warnings, and answers with a value or an error. What
it has changed before an error stays changed; there is no rollback but the one an operation makes
itself. Main statements: `bind_of_ok`, `bind_of_error` (what comes after an answer and after an
error) and the monad laws `bind_pure` and `bind_assoc`.
-/

namespace CredentialStore

/-- What is left after an operation. -/
structure Outcome (σ α : Type) where
  answer : Except CredentialError α
  state : σ
  warnings : List Warning

/-- An operation on a state. -/
def Op (σ α : Type) : Type :=
  σ → Outcome σ α

namespace Op

variable {σ τ α β : Type}

/-- Answers with a value and changes nothing. -/
def answer (a : α) : Op σ α :=
  fun s => ⟨.ok a, s, []⟩

/-- Fails and changes nothing. -/
def fail (e : CredentialError) : Op σ α :=
  fun s => ⟨.error e, s, []⟩

/-- Answers with a value or fails, and changes nothing. -/
def ofExcept (r : Except CredentialError α) : Op σ α :=
  fun s => ⟨r, s, []⟩

/-- Runs an operation and goes on with its answer; an error ends it. -/
def andThen (x : Op σ α) (f : α → Op σ β) : Op σ β := fun s =>
  let r := x s
  match r.answer with
  | .error e => ⟨.error e, r.state, r.warnings⟩
  | .ok a =>
    let t := f a r.state
    ⟨t.answer, t.state, r.warnings ++ t.warnings⟩

instance : Monad (Op σ) where
  pure := answer
  bind := andThen

instance : MonadExceptOf CredentialError (Op σ) where
  throw := fail
  tryCatch x handle := fun s =>
    let r := x s
    match r.answer with
    | .ok _ => r
    | .error e =>
      let t := handle e r.state
      ⟨t.answer, t.state, r.warnings ++ t.warnings⟩

/-- The state. -/
def state : Op σ σ :=
  fun s => ⟨.ok s, s, []⟩

/-- Replaces the state. -/
def setState (s : σ) : Op σ Unit :=
  fun _ => ⟨.ok (), s, []⟩

/-- Reports a warning. -/
def warn (w : Warning) : Op σ Unit :=
  fun s => ⟨.ok (), s, [w]⟩

/-- Runs an operation and answers with its answer or its error. -/
def attempt (x : Op σ α) : Op σ (Except CredentialError α) := fun s =>
  let r := x s
  ⟨.ok r.answer, r.state, r.warnings⟩

/-- Runs an operation with its errors changed. -/
def mapError (f : CredentialError → CredentialError) (x : Op σ α) : Op σ α := fun s =>
  let r := x s
  ⟨r.answer.mapError f, r.state, r.warnings⟩

/-- Runs an operation on a part of the state. -/
def zoom (part : σ → τ) (put : σ → τ → σ) (x : Op τ α) : Op σ α := fun s =>
  let r := x (part s)
  ⟨r.answer, put s r.state, r.warnings⟩

/-! ## Laws -/

theorem pure_apply (a : α) (s : σ) : (pure a : Op σ α) s = ⟨.ok a, s, []⟩ := rfl

theorem bind_of_ok {x : Op σ α} {s : σ} {a : α} (f : α → Op σ β) (h : (x s).answer = .ok a) :
    (x >>= f) s = ⟨(f a (x s).state).answer, (f a (x s).state).state,
      (x s).warnings ++ (f a (x s).state).warnings⟩ := by
  simp only [bind, andThen, h]

theorem bind_of_error {x : Op σ α} {s : σ} {e : CredentialError} (f : α → Op σ β)
    (h : (x s).answer = .error e) :
    (x >>= f) s = ⟨.error e, (x s).state, (x s).warnings⟩ := by
  simp only [bind, andThen, h]

theorem bind_state (f : σ → Op σ β) (s : σ) : (Op.state >>= f) s = f s s := by
  simp [bind_of_ok (x := Op.state) (a := s) f rfl, state]

theorem bind_setState (t : σ) (f : Unit → Op σ β) (s : σ) : (setState t >>= f) s = f () t := by
  simp [bind_of_ok (x := setState t) (a := ()) f rfl, setState]

theorem bind_pure (x : Op σ α) : (x >>= pure : Op σ α) = x := by
  funext s
  cases h : (x s).answer with
  | error e => simp [bind_of_error _ h, ← h]
  | ok a => simp [bind_of_ok _ h, pure_apply, ← h]

theorem bind_assoc {γ : Type} (x : Op σ α) (f : α → Op σ β) (g : β → Op σ γ) :
    (x >>= f >>= g : Op σ γ) = x >>= fun a => f a >>= g := by
  funext s
  cases h : (x s).answer with
  | error e =>
    rw [bind_of_error _ h, bind_of_error (x := x >>= f) _ (by rw [bind_of_error _ h]),
      bind_of_error _ h]
  | ok a =>
    rw [bind_of_ok _ h]
    cases h2 : (f a (x s).state).answer with
    | error e =>
      rw [bind_of_error _ h2, bind_of_error (x := x >>= f) _ (by rw [bind_of_ok _ h, h2]),
        bind_of_ok _ h]
    | ok b =>
      rw [bind_of_ok _ h2, bind_of_ok (x := x >>= f) _ (by rw [bind_of_ok _ h, h2]),
        bind_of_ok _ h]
      simp [List.append_assoc]

end Op

end CredentialStore
