import DocQuery.Binding.Basic
import DocQuery.EvalError

/-! What functions accept: parameters, signatures, and the check of arguments against them. -/

set_option autoImplicit false

namespace DocQuery

variable {V : Type}

/-- An argument as a function receives it: a value, or an expression not yet evaluated. -/
inductive Argument (V : Type) where
  | value (given : V)
  | expression (given : Expr)

inductive Parameter where
  /-- Any value, but no expression. -/
  | any
  | kinds (accepted : List Kind)
  /-- An array whose elements are of these kinds. -/
  | arrayOf (accepted : List Kind)
  | expression
  deriving DecidableEq, Repr

namespace Argument

def value? : Argument V → Option V
  | .value given => some given
  | .expression _ => none

def description (binding : Binding V) : Argument V → String
  | .expression _ => "expression"
  | .value given =>
    if binding.isArray given then
      match Kind.distinct ((binding.elements given).map binding.kindOf) with
      | [] => "array"
      | found => "array[" ++ Kind.alternatives found ++ "]"
    else
      binding.kindName given

end Argument

namespace Parameter

def text : Parameter → String
  | .any => "any"
  | .kinds accepted => Kind.alternatives accepted
  | .arrayOf accepted => "array[" ++ Kind.alternatives accepted ++ "]"
  | .expression => "expression"

def accepts (binding : Binding V) : Parameter → Argument V → Bool
  | .expression, .expression _ => true
  | .expression, .value _ => false
  | _, .expression _ => false
  | .any, .value _ => true
  | .kinds accepted, .value given => accepted.contains (binding.kindOf given)
  | .arrayOf accepted, .value given =>
    binding.isArray given &&
      (binding.elements given).all fun element => accepted.contains (binding.kindOf element)

end Parameter

structure Signature where
  parameters : List Parameter
  minArity : Nat
  maxArity : Option Nat
  deriving DecidableEq, Repr

namespace Signature

def exact (parameters : List Parameter) : Signature :=
  ⟨parameters, parameters.length, some parameters.length⟩

/-- At least one argument for each parameter; the last one stands for all further arguments. -/
def variadic (parameters : List Parameter) : Signature :=
  ⟨parameters, parameters.length, none⟩

/-- One argument for each of the first parameters, and at most one for each of the others. -/
def withOptional (parameters : List Parameter) (required : Nat) : Signature :=
  ⟨parameters, min required parameters.length, some parameters.length⟩

-- Positions are counted from zero.
def parameter? (signature : Signature) (position : Nat) : Option Parameter :=
  match signature.parameters[position]? with
  | some parameter => some parameter
  | none => if signature.maxArity.isNone then signature.parameters.getLast? else none

def arityText (signature : Signature) : String :=
  match signature.maxArity with
  | none => "at least " ++ toString signature.minArity
  | some greatest =>
    if greatest = signature.minArity then toString greatest
    else toString signature.minArity ++ " to " ++ toString greatest

def admitsCount (signature : Signature) (count : Nat) : Bool :=
  decide (signature.minArity ≤ count) && signature.maxArity.all (decide <| count ≤ ·)

/-- Check arguments from a position on. A position without a parameter takes anything. -/
def checkFrom (signature : Signature) (name : String) (binding : Binding V) (position : Nat) :
    List (Argument V) → Except EvalError Unit
  | [] => .ok ()
  | argument :: rest =>
    match signature.parameter? position with
    | none => checkFrom signature name binding (position + 1) rest
    | some parameter =>
      if parameter.accepts binding argument then
        checkFrom signature name binding (position + 1) rest
      else
        .error (.invalidArgument name (position + 1) parameter.text (argument.description binding))

-- The number of arguments is checked before any of them.
def validate (signature : Signature) (name : String) (binding : Binding V)
    (arguments : List (Argument V)) : Except EvalError Unit :=
  if signature.admitsCount arguments.length then
    signature.checkFrom name binding 0 arguments
  else
    .error (.invalidArity name signature.arityText arguments.length)

end Signature

end DocQuery
