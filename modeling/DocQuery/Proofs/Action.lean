import DocQuery.Action
import DocQuery.Proofs.Run

/-! What a body asks for, and what its run depends on.

A body decides from one answer what it asks for next, so its questions depend on the answers. All
that it learns of its arguments' evaluation are the answers to these questions.
-/

set_option autoImplicit false

namespace DocQuery.Action

variable {V α : Type}

/-- An action comes to ask for the argument at a position to be evaluated on a value. -/
inductive Asks (evaluate : Nat → V → Run V V) : Action V α → Nat → V → Prop where
  | now {position : Nat} {current : V} (next : Except EvalError V → Action V α) :
      Asks evaluate (.evaluate position current next) position current
  | later {position other : Nat} {current value : V} {next : Except EvalError V → Action V α} :
      Asks evaluate (next (evaluate position current).outcome) other value →
      Asks evaluate (.evaluate position current next) other value

variable {evaluate other : Nat → V → Run V V} {action : Action V α}

theorem run_evaluate (position : Nat) (current : V) (next : Except EvalError V → Action V α) :
    (Action.evaluate position current next).run evaluate =
      ⟨(evaluate position current).calls ++
          ((next (evaluate position current).outcome).run evaluate).calls,
        ((next (evaluate position current).outcome).run evaluate).outcome⟩ :=
  Run.bind_of_ok _ rfl

/-- The run of an action depends on nothing but the answers to its questions. -/
theorem run_congr
    (same : ∀ position current, Asks evaluate action position current →
      other position current = evaluate position current) :
    action.run other = action.run evaluate := by
  induction action with
  | done value => rfl
  | fail error => rfl
  | evaluate position current next ih =>
    rw [run_evaluate, run_evaluate, same position current (.now next),
      ih _ fun position current asks => same position current (.later asks)]

end DocQuery.Action
