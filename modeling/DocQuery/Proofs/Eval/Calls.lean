import DocQuery.Proofs.Eval.Equations

/-! Function calls in terms of their arguments.

A body that asks for an argument to be evaluated is answered by evaluation itself, so a call depends
on the list of its arguments and on nothing else of the expressions that they come from.
-/

set_option autoImplicit false

namespace DocQuery

variable {V : Type}

namespace Environment

variable (environment : Environment V)

/-- What a body is answered that has the argument at a position evaluated. A value stands for
itself, and after the last argument there is the current value. -/
def answer (arguments : List (Argument V)) (position : Nat) (current : V) : Run V V :=
  match arguments[position]? with
  | some (.value given) => pure given
  | some (.expression given) => given.evaluate environment current
  | none => pure current

def apply (name : String) (arguments : List (Argument V)) : Run V V :=
  match environment.function? name with
  | none => Run.fail (.unknownFunction name)
  | some function => do
    Run.ofExcept (function.signature.validate name environment.toBinding arguments)
    Run.record ⟨name, arguments⟩
    (function.body environment.toBinding arguments).run (environment.answer arguments)

end Environment

def Argument.supplied (environment : Environment V) : Argument V → Supplied V
  | .value given => .ofValue given
  | .expression given => ⟨.expression given, given.evaluate environment⟩

/-- What an expression is as an argument: a reference stays an expression, and any other is
evaluated. -/
def Expr.argument (environment : Environment V) (focus : V) : Expr → Run V (Argument V)
  | .reference expression => pure (.expression expression)
  | expression => Argument.value <$> expression.evaluate environment focus

variable (environment : Environment V)

theorem Argument.argument_supplied (argument : Argument V) :
    (argument.supplied environment).argument = argument := by
  cases argument <;> rfl

theorem Supplied.evaluateAt_supplied (arguments : List (Argument V)) :
    Supplied.evaluateAt (arguments.map (·.supplied environment)) =
      environment.answer arguments := by
  funext position current
  rw [Supplied.evaluateAt, Environment.answer, List.getElem?_map]
  rcases arguments[position]? with _ | (given | given) <;> rfl

-- Both sides run the same body; only the bookkeeping of the arguments differs.
theorem Environment.invoke_supplied (name : String) (arguments : List (Argument V)) :
    environment.invoke name (arguments.map (·.supplied environment)) =
      environment.apply name arguments := by
  have given : (arguments.map (·.supplied environment)).map Supplied.argument = arguments := by
    rw [List.map_map]
    exact (List.map_congr_left fun argument _ => argument.argument_supplied environment).trans
      (List.map_id arguments)
  cases found : environment.function? name with
  | none => simp only [invoke, apply, found]
  | some function =>
    simp only [invoke, apply, found, given, Supplied.evaluateAt_supplied]

namespace Environment

variable {environment} {name : String} {function : Function V} {arguments : List (Argument V)}

theorem apply_of_unknown (unknown : environment.function? name = none) :
    environment.apply name arguments = Run.fail (.unknownFunction name) := by
  simp only [apply, unknown]

theorem apply_of_rejected (found : environment.function? name = some function) {error : EvalError}
    (rejected : function.signature.validate name environment.toBinding arguments = .error error) :
    environment.apply name arguments = Run.fail error := by
  simp only [apply, found, rejected]
  rfl

theorem apply_of_accepted (found : environment.function? name = some function)
    (accepted : function.signature.validate name environment.toBinding arguments = .ok ()) :
    environment.apply name arguments =
      (Run.record ⟨name, arguments⟩ >>= fun _ =>
        (function.body environment.toBinding arguments).run (environment.answer arguments)) := by
  simp only [apply, found, accepted]
  rfl

end Environment

namespace Expr

theorem supply_cons (expression : Expr) (rest : List Expr) (focus : V) :
    supply environment (expression :: rest) focus =
      expression.argument environment focus >>= fun argument =>
        (argument.supplied environment :: ·) <$> supply environment rest focus := by
  cases expression <;>
    simp only [argument, supply, ← bind_pure_comp, bind_assoc, pure_bind] <;> rfl

theorem supply_eq_map (expressions : List Expr) (focus : V) :
    supply environment expressions focus =
      List.map (·.supplied environment) <$> expressions.mapM (·.argument environment focus) := by
  induction expressions with
  | nil => rfl
  | cons expression rest ih =>
    rw [supply_cons, ih, List.mapM_cons]
    simp only [← bind_pure_comp, bind_assoc, pure_bind, List.map_cons]

theorem evaluate_call (name : String) (arguments : List Expr) (focus : V) :
    (call name arguments).evaluate environment focus =
      arguments.mapM (·.argument environment focus) >>= environment.apply name := by
  change ((call name arguments).run environment focus).value = _
  rw [run, supply_eq_map, bind_map_left]
  apply Run.value_bind_congr
  intro given
  rw [Environment.invoke_supplied]
  exact Run.value_bind_plain _

end Expr

end DocQuery
