import DocQuery.Expr.Basic

/-! The failures of evaluation.

Missing fields, positions out of range and values of the wrong kind are not failures: outside of
function calls they give null.
-/

set_option autoImplicit false

namespace DocQuery

inductive EvalError where
  | unknownFunction (name : String)
  | invalidArity (name expected : String) (actual : Nat)
  /-- Positions count from one. -/
  | invalidArgument (name : String) (position : Nat) (expected actual : String)
  | zeroStep
  | functionFailed (name message : String)
  deriving DecidableEq, Repr

namespace EvalError

def called (name : String) : String :=
  "\"" ++ name ++ "()\""

def message : EvalError → String
  | .unknownFunction name => "unknown function " ++ called name
  | .invalidArity name expected actual =>
    "invalid arity calling " ++ called name ++ ": expected " ++ expected ++ " arguments, got " ++
      toString actual
  | .invalidArgument name position expected actual =>
    "invalid type for argument " ++ toString position ++ " of " ++ called name ++ ": expected " ++
      expected ++ ", got " ++ actual
  | .zeroStep => "slice step cannot be zero"
  | .functionFailed name message => called name ++ " failed: " ++ message

def form : EvalError → Expr.Form
  | .zeroStep => .slice
  | _ => .call

end EvalError

end DocQuery
