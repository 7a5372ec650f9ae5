import DocQuery.Proofs.Admission

/-! One step of evaluation, in a selected monad.

A step evaluates an expression, given how the expressions within it are evaluated. It is no second
evaluator: evaluation is a fixed point of it. In other monads, and with other ways to evaluate the
expressions within, it gives evaluators that also count, or that stop early.
-/

set_option autoImplicit false

namespace DocQuery

variable {V α : Type}

/-- A monad in which expressions can be evaluated. A run may fail, make a call known, and hand its
failure on as a value. -/
class Carrier (V : outParam Type) (m : Type → Type) extends Monad m where
  fail {α : Type} : EvalError → m α
  record : Call V → m Unit
  attempt {α : Type} : m α → m (Except EvalError α)

instance : Carrier V (Run V) where
  fail := Run.fail
  record := Run.record
  attempt := Run.attempt

namespace Carrier

variable {m : Type → Type} [Carrier V m]

def project (binding : Binding V) (body : V → m V) (elements : List V) : m V := do
  let results ← elements.mapM body
  pure (binding.array (results.filter fun result => !binding.isNull result))

def select (binding : Binding V) (predicate : V → m V) (elements : List V) : m V := do
  let marked ← elements.mapM fun element => do
    let verdict ← predicate element
    pure (element, binding.isTruthy verdict)
  pure (binding.array ((marked.filter Prod.snd).map Prod.fst))

def perform (evaluate : Nat → V → m V) : Action V α → m α
  | .done value => pure value
  | .fail error => fail error
  | .evaluate position current next => do
    let answer ← attempt (evaluate position current)
    perform evaluate (next answer)

section

variable (evaluate : Expr → V → m V)

def argument (focus : V) : Expr → m (Argument V)
  | .reference expression => pure (.expression expression)
  | expression => do
    let value ← evaluate expression focus
    pure (.value value)

/-- What a body is answered that has the argument at a position evaluated: what the reference there
refers to is evaluated, and the value of any other argument stands for itself. -/
def answer (arguments : List Expr) (given : List (Argument V)) (position : Nat) (current : V) :
    m V :=
  match arguments[position]?, given[position]? with
  | some (.reference expression), _ => evaluate expression current
  | _, some (.value value) => pure value
  | _, _ => pure current

def apply (environment : Environment V) (name : String) (arguments : List Expr)
    (given : List (Argument V)) : m V :=
  match environment.callee name given with
  | .error error => fail error
  | .ok function => do
    record ⟨name, given⟩
    perform (answer evaluate arguments given) (function.body environment.toBinding given)

end

end Carrier

namespace Expr

variable {m : Type → Type} [Carrier V m]

/-- Evaluate an expression, given how those within it are evaluated. -/
def step (environment : Environment V) (run : Expr → V → m (Evaluated V)) (expression : Expr)
    (focus : V) : m (Evaluated V) :=
  let evaluate (part : Expr) (current : V) : m V := do
    let result ← run part current
    pure result.value
  match expression with
  | .current | .identity => pure (.plain focus)
  | .literal value => pure (.plain (environment.ofJson value))
  | .field source name => do
    let input ← evaluate source focus
    pure (.plain (environment.field input name))
  | .index source position => do
    let input ← evaluate source focus
    pure (.plain (environment.index input position))
  | .slice source start stop step =>
    let step := step.getD 1
    if step = 0 then Carrier.fail .zeroStep
    else do
      let input ← evaluate source focus
      pure (.plain (environment.slice input start stop step))
  | .flattenList source => do
    let input ← evaluate source focus
    pure (.plain (environment.array (environment.flattened input)))
  | .pipe left right => do
    let input ← evaluate left focus
    let result ← evaluate right input
    pure (.plain result)
  | .sub left right => do
    let input ← run left focus
    if !input.projecting then run right input.value
    else if !environment.isArray input.value then pure input
    else do
      let result ← Carrier.project environment.toBinding (evaluate right)
        (environment.elements input.value)
      pure (.projected result)
  | .listProjection source body => do
    let input ← evaluate source focus
    if !environment.isArray input then pure (.projected environment.null)
    else do
      let result ← Carrier.project environment.toBinding (evaluate body)
        (environment.elements input)
      pure (.projected result)
  | .objectProjection source body => do
    let input ← evaluate source focus
    if !environment.isObject input then pure (.projected environment.null)
    else do
      let result ← Carrier.project environment.toBinding (evaluate body)
        (environment.propertyValues input)
      pure (.projected result)
  | .flattenProjection source body => do
    let input ← evaluate source focus
    let result ← Carrier.project environment.toBinding (evaluate body)
      (environment.flattened input)
    pure (.projected result)
  | .multiSelectList items =>
    if environment.isNull focus then pure (.plain environment.null)
    else do
      let values ← items.mapM fun item => evaluate item focus
      pure (.plain (environment.array values))
  | .multiSelectHash entries =>
    if environment.isNull focus then pure (.plain environment.null)
    else do
      let members ← entries.mapM fun entry => do
        let value ← evaluate entry.2 focus
        pure (entry.1, value)
      pure (.plain (environment.object members))
  | .filter source predicate => do
    let input ← evaluate source focus
    if !environment.isArray input then pure (.projected environment.null)
    else do
      let result ← Carrier.select environment.toBinding (evaluate predicate)
        (environment.elements input)
      pure (.projected result)
  | .comparison operator left right => do
    let first ← evaluate left focus
    let second ← evaluate right focus
    pure (.plain (environment.compared operator first second))
  | .and left right => do
    let value ← evaluate left focus
    if !environment.isTruthy value then pure (.plain value)
    else do
      let result ← evaluate right focus
      pure (.plain result)
  | .or left right => do
    let value ← evaluate left focus
    if environment.isTruthy value then pure (.plain value)
    else do
      let result ← evaluate right focus
      pure (.plain result)
  | .not operand => do
    let value ← evaluate operand focus
    pure (.plain (environment.boolean (!environment.isTruthy value)))
  | .call name arguments => do
    let given ← arguments.mapM (Carrier.argument evaluate focus)
    let result ← Carrier.apply evaluate environment name arguments given
    pure (.plain result)
  | .reference _ => pure (.plain environment.null)

end Expr

variable (environment : Environment V)

namespace Carrier

theorem perform_eq_run (evaluate : Nat → V → Run V V) (action : Action V α) :
    perform evaluate action = action.run evaluate := by
  induction action with
  | done value => rfl
  | fail error => rfl
  | evaluate position current next ih =>
    rw [perform, Action.run]
    exact congrArg ((evaluate position current).attempt >>= ·) (funext ih)

theorem argument_eq_argument (focus : V) :
    argument (·.evaluate environment) focus = Expr.argument environment focus := by
  funext expression
  cases expression <;> rfl

theorem answer_eq_answer {focus : V} {arguments : List Expr} {given : List (Argument V)}
    (entries : List.Forall₂ (Expr.Entry environment focus) arguments given) :
    answer (·.evaluate environment) arguments given = environment.answer given := by
  funext position current
  have found := forall₂_getElem? entries position
  rw [answer, Environment.answer]
  generalize arguments[position]? = argument?, given[position]? = given? at found ⊢
  cases found with
  | none => rfl
  | @some expression _ entry =>
    cases entry with
    | reference expression => rfl
    | value other _ =>
      cases expression with
      | reference expression => exact absurd rfl other
      | _ => rfl

theorem apply_eq_apply {focus : V} {arguments : List Expr} {given : List (Argument V)}
    (entries : List.Forall₂ (Expr.Entry environment focus) arguments given) (name : String) :
    apply (·.evaluate environment) environment name arguments given =
      environment.apply name given := by
  rw [apply]
  cases accepted : environment.callee name given with
  | error error => exact (Environment.apply_of_callee_error accepted).symm
  | ok function =>
    rw [Environment.apply_of_callee_ok accepted, Environment.perform,
      ← answer_eq_answer environment entries, ← perform_eq_run]
    rfl

end Carrier

namespace Expr

/-- An expression is evaluated by a step that evaluates the expressions within it likewise. -/
theorem step_run (expression : Expr) (focus : V) :
    expression.step environment (run environment) focus = expression.run environment focus := by
  cases expression with
  | multiSelectList items =>
    rw [run, runAll_eq_mapM]
    rfl
  | multiSelectHash entries =>
    rw [run, runEntries_eq_mapM]
    rfl
  | call name arguments =>
    have supplied : (arguments.mapM (argument environment focus)).Returns
        (Supplies environment focus arguments) := fun _ => Run.forall₂_of_mapM
    rw [run, supply_eq_map, bind_map_left, step]
    change arguments.mapM (Carrier.argument (·.evaluate environment) focus) >>= _ = _
    rw [Carrier.argument_eq_argument]
    apply supplied.bind_congr
    intro given supplies
    rw [Environment.invoke_supplied]
    have same := Carrier.apply_eq_apply environment (supplies_iff.1 supplies) name
    exact congrArg (· >>= fun result => pure (Evaluated.plain result)) same
  | _ => rfl

end Expr

end DocQuery
