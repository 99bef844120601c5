import CredentialStore.Error

/-!
# Failing calls

A secret store can be told which of its calls fail. A rule lets a number of calls pass first and
then fails a number of calls, or all of them; a call that fails does not reach the store. Of several
rules the first that fires decides, and a call that a rule lets pass goes on to the rules behind it,
so every pattern of failures can be written as rules. Main statement: `consult_of_not_applies`
(rules for other calls are not used up).
-/

namespace CredentialStore

/-- The calls of a secret store. -/
inductive SecretCall where
  | store
  | retrieve
  | delete
  | list
  deriving DecidableEq, Repr

/-- A rule for failing calls. -/
structure FaultRule where
  call : SecretCall
  /-- The rule is for keys that start so. -/
  keyStart : String
  error : CredentialError
  /-- How many calls pass first. -/
  skip : Nat := 0
  /-- How many calls fail then; without a number all of them do. -/
  times : Option Nat := none
  deriving DecidableEq, Repr

namespace FaultRule

/-- Whether a rule is for a call and not used up. -/
def applies (r : FaultRule) (call : SecretCall) (key : String) : Bool :=
  r.call == call && r.keyStart.toList.isPrefixOf key.toList && r.times != some 0

/-- The failure of a call, and the rules after it. -/
def consult (call : SecretCall) (key : String) :
    List FaultRule → Option CredentialError × List FaultRule
  | [] => (none, [])
  | r :: rest =>
    if r.applies call key ∧ r.skip = 0 then
      (some r.error, { r with times := r.times.map (· - 1) } :: rest)
    else
      let (e, rest) := consult call key rest
      (e, (if r.applies call key then { r with skip := r.skip - 1 } else r) :: rest)

/-- Rules for other calls are not used up. -/
theorem consult_of_not_applies {call : SecretCall} {key : String} {rules : List FaultRule}
    (h : ∀ r ∈ rules, r.applies call key = false) : consult call key rules = (none, rules) := by
  induction rules with
  | nil => rfl
  | cons r rest ih =>
    have hr := h r (by simp)
    rw [consult, ih fun x hx => h x (by simp [hx])]
    simp [hr]

end FaultRule

end CredentialStore
