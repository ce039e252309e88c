import Mathlib.Logic.Basic

/-!
# Statements that assign and throw

A method assigns to its variables one after the other, and what it throws keeps
the assignments made before.  It is atomic if it does the same as a function
that returns new variables only when it succeeds.
-/

namespace Statements

variable {ε σ α : Type}

def checked (outcome : Except ε α) : EStateM ε σ α := fun state =>
  match outcome with
  | .ok value => .ok value state
  | .error rejection => .error rejection state

def rejectIf (invalid : Prop) [Decidable invalid] (rejection : ε) :
    EStateM ε σ Unit := fun state =>
  if invalid then .error rejection state else .ok () state

def assign (change : σ → σ) : EStateM ε σ Unit := fun state =>
  .ok () (change state)

/-- What a call comes to that changes all or nothing. -/
def atomically (state : σ) : Except ε (α × σ) → EStateM.Result ε σ α
  | .ok (value, after) => .ok value after
  | .error rejection => .error rejection state

section Apply

variable {β : Type} (state : σ)

theorem bind_apply (first : EStateM ε σ α) (next : α → EStateM ε σ β) :
    (first >>= next) state =
      match first state with
      | .ok value after => next value after
      | .error rejection after => .error rejection after := by
  rw [bind, Monad.toBind, EStateM.instMonad]
  simp only [EStateM.bind]
  cases first state with
  | ok value after => rfl
  | error rejection after => rfl

theorem get_apply : (get : EStateM ε σ σ) state = .ok state state :=
  rfl

/-- A check and the same check before an outcome. -/
theorem rejectIf_bind {invalid : Prop} [Decidable invalid]
    {rejection : ε} {next : Unit → EStateM ε σ α}
    {outcome : Except ε (α × σ)}
    (valid : ¬invalid → next () state = atomically state outcome) :
    (rejectIf invalid rejection >>= next) state =
      atomically state (if invalid then .error rejection else outcome) := by
  by_cases holds : invalid
  · rw [bind_apply, rejectIf, if_pos holds, if_pos holds]
    rfl
  · rw [bind_apply, rejectIf, if_neg holds, if_neg holds]
    exact valid holds

end Apply

/-- What throws has changed nothing. -/
def Atomic (statements : EStateM ε σ α) : Prop :=
  ∀ {state rejection after}, statements state = .error rejection after →
    after = state

theorem atomic_of_eq {statements : EStateM ε σ α}
    {outcome : σ → Except ε (α × σ)}
    (same : ∀ state, statements state = atomically state (outcome state)) :
    Atomic statements := by
  intro state rejection after thrown
  rw [same] at thrown
  cases taken : outcome state with
  | error other =>
      rw [taken] at thrown
      cases thrown
      rfl
  | ok value =>
      rw [taken] at thrown
      cases thrown

end Statements
