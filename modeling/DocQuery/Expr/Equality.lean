import DocQuery.Expr.Basic
import DocQuery.Json.Equality

/-! Equality of expressions: the same form, the same constants and equal parts.

Literals are equal as they are written, up to the order of object members.
-/

set_option autoImplicit false

namespace DocQuery.Expr

mutual

/-- Equality of expressions, given when two literals are equal. -/
def sameBy (literals : Json → Json → Bool) : Expr → Expr → Bool
  | .current, other => other.form == .current
  | .identity, other => other.form == .identity
  | .literal value, other => match other with
    | .literal value' => literals value value'
    | _ => false
  | .field source name, other => match other with
    | .field source' name' => source.sameBy literals source' && name == name'
    | _ => false
  | .index source position, other => match other with
    | .index source' position' => source.sameBy literals source' && position == position'
    | _ => false
  | .slice source start stop step, other => match other with
    | .slice source' start' stop' step' =>
      source.sameBy literals source' && start == start' && stop == stop' && step == step'
    | _ => false
  | .flattenList source, other => match other with
    | .flattenList source' => source.sameBy literals source'
    | _ => false
  | .pipe left right, other => match other with
    | .pipe left' right' => left.sameBy literals left' && right.sameBy literals right'
    | _ => false
  | .sub left right, other => match other with
    | .sub left' right' => left.sameBy literals left' && right.sameBy literals right'
    | _ => false
  | .listProjection source body, other => match other with
    | .listProjection source' body' => source.sameBy literals source' && body.sameBy literals body'
    | _ => false
  | .objectProjection source body, other => match other with
    | .objectProjection source' body' =>
      source.sameBy literals source' && body.sameBy literals body'
    | _ => false
  | .flattenProjection source body, other => match other with
    | .flattenProjection source' body' =>
      source.sameBy literals source' && body.sameBy literals body'
    | _ => false
  | .multiSelectList items, other => match other with
    | .multiSelectList items' => sameAll literals items items'
    | _ => false
  | .multiSelectHash entries, other => match other with
    | .multiSelectHash entries' => sameEntries literals entries entries'
    | _ => false
  | .filter source predicate, other => match other with
    | .filter source' predicate' =>
      source.sameBy literals source' && predicate.sameBy literals predicate'
    | _ => false
  | .comparison operator left right, other => match other with
    | .comparison operator' left' right' =>
      operator == operator' && left.sameBy literals left' && right.sameBy literals right'
    | _ => false
  | .and left right, other => match other with
    | .and left' right' => left.sameBy literals left' && right.sameBy literals right'
    | _ => false
  | .or left right, other => match other with
    | .or left' right' => left.sameBy literals left' && right.sameBy literals right'
    | _ => false
  | .not operand, other => match other with
    | .not operand' => operand.sameBy literals operand'
    | _ => false
  | .call name arguments, other => match other with
    | .call name' arguments' => name == name' && sameAll literals arguments arguments'
    | _ => false
  | .reference expression, other => match other with
    | .reference expression' => expression.sameBy literals expression'
    | _ => false
termination_by structural expression => expression

def sameAll (literals : Json → Json → Bool) : List Expr → List Expr → Bool
  | [], [] => true
  | first :: rest, first' :: rest' => first.sameBy literals first' && sameAll literals rest rest'
  | _, _ => false
termination_by structural expressions => expressions

def sameEntries (literals : Json → Json → Bool) :
    List (String × Expr) → List (String × Expr) → Bool
  | [], [] => true
  | (key, first) :: rest, (key', first') :: rest' =>
    key == key' && first.sameBy literals first' && sameEntries literals rest rest'
  | _, _ => false
termination_by structural entries => entries

end

def same (first second : Expr) : Bool := first.sameBy Json.sameForm second

end DocQuery.Expr
