import DocQuery.Function
import DocQuery.Slice

/-! Evaluation of expressions against a value, through the binding of its document. -/

set_option autoImplicit false

namespace DocQuery

variable {V : Type}

/-- A value, and whether it comes from a projection that a following step continues. -/
structure Evaluated (V : Type) where
  value : V
  projecting : Bool

namespace Evaluated

def plain (value : V) : Evaluated V := ⟨value, false⟩

def projected (value : V) : Evaluated V := ⟨value, true⟩

end Evaluated

def Run.value (run : Run V (Evaluated V)) : Run V V :=
  Evaluated.value <$> run

-- An argument comes with the way to evaluate it, which for a value gives that value.
structure Supplied (V : Type) where
  argument : Argument V
  evaluate : V → Run V V

namespace Supplied

def ofValue (value : V) : Supplied V := ⟨.value value, fun _ => pure value⟩

/-- Evaluate the argument at a position. A position after the last gives the current value. -/
def evaluateAt (supplied : List (Supplied V)) (position : Nat) (current : V) : Run V V :=
  match supplied[position]? with
  | some argument => argument.evaluate current
  | none => pure current

end Supplied

namespace Binding

variable (binding : Binding V)

def field (input : V) (name : String) : V :=
  if binding.isObject input then binding.property input name else binding.null

def index (input : V) (position : Int64) : V :=
  if binding.isArray input then
    match Slice.resolveIndex position (binding.arrayLength input) with
    | some resolved => binding.elementAt input resolved
    | none => binding.null
  else
    binding.null

def slice (input : V) (start stop : Option Int64) (step : Int64) : V :=
  if binding.isArray input then
    binding.array (Slice.select (binding.elements input) start stop step)
  else
    binding.null

def flattened (input : V) : List V :=
  (binding.elements input).flatMap fun element =>
    if binding.isArray element then binding.elements element else [element]

/-- Two numbers or two dates have an order, if the binding knows it. -/
def order? (first second : V) : Option Ordering :=
  let kind := binding.kindOf first
  if kind = binding.kindOf second ∧ (kind = .number ∨ kind = .date) then
    binding.compare? first second
  else
    none

def compared (operator : Comparator) (first second : V) : V :=
  match operator.verdict? (binding.equals first second) (binding.order? first second) with
  | some verdict => binding.boolean verdict
  | none => binding.null

def project (body : V → Run V V) (elements : List V) : Run V V := do
  let results ← elements.mapM body
  pure (binding.array (results.filter fun result => !binding.isNull result))

def select (predicate : V → Run V V) (elements : List V) : Run V V := do
  let marked ← elements.mapM fun element => do
    let verdict ← predicate element
    pure (element, binding.isTruthy verdict)
  pure (binding.array ((marked.filter Prod.snd).map Prod.fst))

end Binding

-- The body runs only after its arguments have been checked against the signature.
def Environment.invoke (environment : Environment V) (name : String)
    (supplied : List (Supplied V)) : Run V V :=
  let arguments := supplied.map Supplied.argument
  match environment.function? name with
  | none => Run.fail (.unknownFunction name)
  | some function => do
    Run.ofExcept (function.signature.validate name environment.toBinding arguments)
    Run.record ⟨name, arguments⟩
    (function.body environment.toBinding arguments).run (Supplied.evaluateAt supplied)

namespace Expr

mutual

def run (environment : Environment V) : Expr → V → Run V (Evaluated V)
  | .current, focus => pure (.plain focus)
  | .identity, focus => pure (.plain focus)
  | .literal value, _ => pure (.plain (environment.ofJson value))
  | .field source name, focus => do
    let input ← (source.run environment focus).value
    pure (.plain (environment.field input name))
  | .index source position, focus => do
    let input ← (source.run environment focus).value
    pure (.plain (environment.index input position))
  | .slice source start stop step, focus =>
    let step := step.getD 1
    if step = 0 then Run.fail .zeroStep
    else do
      let input ← (source.run environment focus).value
      pure (.plain (environment.slice input start stop step))
  | .flattenList source, focus => do
    let input ← (source.run environment focus).value
    pure (.plain (environment.array (environment.flattened input)))
  | .pipe left right, focus => do
    let input ← (left.run environment focus).value
    let result ← (right.run environment input).value
    pure (.plain result)
  | .sub left right, focus => do
    let input ← left.run environment focus
    if !input.projecting then right.run environment input.value
    else if !environment.isArray input.value then pure input
    else do
      let result ← environment.project (fun element => (right.run environment element).value)
        (environment.elements input.value)
      pure (.projected result)
  | .listProjection source body, focus => do
    let input ← (source.run environment focus).value
    if !environment.isArray input then pure (.projected environment.null)
    else do
      let result ← environment.project (fun element => (body.run environment element).value)
        (environment.elements input)
      pure (.projected result)
  | .objectProjection source body, focus => do
    let input ← (source.run environment focus).value
    if !environment.isObject input then pure (.projected environment.null)
    else do
      let result ← environment.project (fun element => (body.run environment element).value)
        (environment.propertyValues input)
      pure (.projected result)
  | .flattenProjection source body, focus => do
    let input ← (source.run environment focus).value
    let result ← environment.project (fun element => (body.run environment element).value)
      (environment.flattened input)
    pure (.projected result)
  | .multiSelectList items, focus =>
    if environment.isNull focus then pure (.plain environment.null)
    else do
      let values ← runAll environment items focus
      pure (.plain (environment.array values))
  | .multiSelectHash entries, focus =>
    if environment.isNull focus then pure (.plain environment.null)
    else do
      let members ← runEntries environment entries focus
      pure (.plain (environment.object members))
  | .filter source predicate, focus => do
    let input ← (source.run environment focus).value
    if !environment.isArray input then pure (.projected environment.null)
    else do
      let result ← environment.select
        (fun element => (predicate.run environment element).value) (environment.elements input)
      pure (.projected result)
  | .comparison operator left right, focus => do
    let first ← (left.run environment focus).value
    let second ← (right.run environment focus).value
    pure (.plain (environment.compared operator first second))
  | .and left right, focus => do
    let value ← (left.run environment focus).value
    if !environment.isTruthy value then pure (.plain value)
    else do
      let result ← (right.run environment focus).value
      pure (.plain result)
  | .or left right, focus => do
    let value ← (left.run environment focus).value
    if environment.isTruthy value then pure (.plain value)
    else do
      let result ← (right.run environment focus).value
      pure (.plain result)
  | .not operand, focus => do
    let value ← (operand.run environment focus).value
    pure (.plain (environment.boolean (!environment.isTruthy value)))
  | .call name arguments, focus => do
    let supplied ← supply environment arguments focus
    let result ← environment.invoke name supplied
    pure (.plain result)
  -- A reference has a meaning as an argument only.
  | .reference _, _ => pure (.plain environment.null)
termination_by structural expression => expression

def runAll (environment : Environment V) : List Expr → V → Run V (List V)
  | [], _ => pure []
  | expression :: rest, focus => do
    let value ← (expression.run environment focus).value
    let values ← runAll environment rest focus
    pure (value :: values)
termination_by structural expressions => expressions

def runEntries (environment : Environment V) :
    List (String × Expr) → V → Run V (List (String × V))
  | [], _ => pure []
  | (key, expression) :: rest, focus => do
    let value ← (expression.run environment focus).value
    let members ← runEntries environment rest focus
    pure ((key, value) :: members)
termination_by structural entries => entries

-- References stand as they are, and all other arguments for their values.
def supply (environment : Environment V) : List Expr → V → Run V (List (Supplied V))
  | [], _ => pure []
  | .reference expression :: rest, focus => do
    let supplied ← supply environment rest focus
    pure (⟨.expression expression, fun value => (expression.run environment value).value⟩ ::
      supplied)
  | expression :: rest, focus => do
    let value ← (expression.run environment focus).value
    let supplied ← supply environment rest focus
    pure (.ofValue value :: supplied)
termination_by structural expressions => expressions

end

def evaluate (environment : Environment V) (expression : Expr) (focus : V) : Run V V :=
  (expression.run environment focus).value

end Expr

end DocQuery
