/-
**Steps that may stop.**

A step works on a state. It returns a value or stops for a reason, and what it has done to the state
stays done. Of steps that are taken one after the other none is taken after one that stops.

* `outcome_bind_ok`, `outcome_bind_error`: a first step, and what follows;
* `outcome_forM`: one step for each item of a list.
-/

import Mathlib.Init

namespace IfChains

namespace Steps

variable {σ ε α β : Type} {first : ExceptT ε (StateM σ) α} {next : α → ExceptT ε (StateM σ) β}
  {state after : σ} {value : α}

/-- What a step returns or stops with, and the state that it leaves. -/
def outcome (step : ExceptT ε (StateM σ) α) (state : σ) : Except ε α × σ :=
  (ExceptT.run step).run state

/-- A first step that returns, and what follows. -/
theorem outcome_bind_ok (returned : outcome first state = (.ok value, after)) :
    outcome (first >>= next) state = outcome (next value) after := by
  unfold outcome at returned ⊢
  rw [ExceptT.run_bind, StateT.run_bind, returned]
  rfl

/-- A look at the state, and what follows. -/
theorem outcome_get_bind {next : σ → ExceptT ε (StateM σ) β} :
    outcome (get >>= next) state = outcome (next state) state :=
  outcome_bind_ok rfl

/-- A first step that stops. -/
theorem outcome_bind_error {fault : ε} (stopped : outcome first state = (.error fault, after)) :
    outcome (first >>= next) state = (.error fault, after) := by
  unfold outcome at stopped ⊢
  rw [ExceptT.run_bind, StateT.run_bind, stopped]
  rfl

/-- One step for each item of a list, if none of them stops. -/
theorem outcome_forM {step : α → ExceptT ε (StateM σ) Unit} {change : σ → α → σ}
    (returned : ∀ item state, outcome (step item) state = (.ok (), change state item))
    (items : List α) (state : σ) :
    outcome (items.forM step) state = (.ok (), items.foldl change state) := by
  induction items generalizing state with
  | nil => rfl
  | cons item rest ih =>
    show outcome (step item >>= fun _ => rest.forM step) state = _
    rw [outcome_bind_ok (returned item state), ih]
    rfl

end Steps

end IfChains
