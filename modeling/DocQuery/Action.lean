import DocQuery.Run

/-! What the body of a function does with its arguments.

A body may ask for one of its arguments to be evaluated on a value of its choice, and goes on from
the answer. It has no other way to evaluate an expression, and does not see the functions that are
registered.
-/

set_option autoImplicit false

namespace DocQuery

variable {V α β : Type}

inductive Action (V α : Type) where
  | done (value : α)
  | fail (error : EvalError)
  | evaluate (position : Nat) (current : V) (next : Except EvalError V → Action V α)

namespace Action

def andThen (next : α → Action V β) : Action V α → Action V β
  | .done value => next value
  | .fail error => .fail error
  | .evaluate position current rest =>
    .evaluate position current fun answer => andThen next (rest answer)

instance : Monad (Action V) where
  pure := .done
  bind action next := andThen next action

def answer (position : Nat) (current : V) : Action V V :=
  .evaluate position current fun
    | .ok value => .done value
    | .error error => .fail error

def run (evaluate : Nat → V → Run V V) : Action V α → Run V α
  | .done value => pure value
  | .fail error => Run.fail error
  | .evaluate position current next => do
    let answer ← (evaluate position current).attempt
    (next answer).run evaluate

end Action

end DocQuery
