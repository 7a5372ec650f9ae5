import DocQuery.Comparator
import DocQuery.Json.Basic

/-! Query expressions.

An expression is evaluated against a current value. It holds no value of the document it queries:
its constants are JSON, which the document's binding converts.
-/

set_option autoImplicit false

namespace DocQuery

inductive Expr where
  /-- The current value, `@`. -/
  | current
  /-- The current value too; a root that is not written. -/
  | identity
  | literal (value : Json)
  | field (source : Expr) (name : String)
  | index (source : Expr) (position : Int64)
  | slice (source : Expr) (start stop step : Option Int64)
  /-- One level of nesting removed. -/
  | flattenList (source : Expr)
  /-- `left | right`, which ends a projection of the left. -/
  | pipe (left right : Expr)
  /-- `left.right`, which continues a projection of the left. -/
  | sub (left right : Expr)
  | listProjection (source body : Expr)
  | objectProjection (source body : Expr)
  | flattenProjection (source body : Expr)
  | multiSelectList (items : List Expr)
  | multiSelectHash (entries : List (String × Expr))
  | filter (source predicate : Expr)
  | comparison (operator : Comparator) (left right : Expr)
  | and (left right : Expr)
  | or (left right : Expr)
  | not (operand : Expr)
  | call (name : String) (arguments : List Expr)
  /-- `&expression`, handed to a function without being evaluated. -/
  | reference (expression : Expr)

inductive Expr.Form where
  | current
  | identity
  | literal
  | field
  | index
  | slice
  | flattenList
  | pipe
  | sub
  | listProjection
  | objectProjection
  | flattenProjection
  | multiSelectList
  | multiSelectHash
  | filter
  | comparison
  | and
  | or
  | not
  | call
  | reference
  deriving DecidableEq, Repr

namespace Expr

def Form.name : Form → String
  | .current => "Current"
  | .identity => "Identity"
  | .literal => "Literal"
  | .field => "Field"
  | .index => "Index"
  | .slice => "Slice"
  | .flattenList => "FlattenList"
  | .pipe => "Pipe"
  | .sub => "SubExpression"
  | .listProjection => "ListProjection"
  | .objectProjection => "ObjectProjection"
  | .flattenProjection => "FlattenProjection"
  | .multiSelectList => "MultiSelectList"
  | .multiSelectHash => "MultiSelectHash"
  | .filter => "Filter"
  | .comparison => "Comparison"
  | .and => "And"
  | .or => "Or"
  | .not => "Not"
  | .call => "FunctionCall"
  | .reference => "ExpressionRef"

def form : Expr → Form
  | .current => .current
  | .identity => .identity
  | .literal _ => .literal
  | .field _ _ => .field
  | .index _ _ => .index
  | .slice _ _ _ _ => .slice
  | .flattenList _ => .flattenList
  | .pipe _ _ => .pipe
  | .sub _ _ => .sub
  | .listProjection _ _ => .listProjection
  | .objectProjection _ _ => .objectProjection
  | .flattenProjection _ _ => .flattenProjection
  | .multiSelectList _ => .multiSelectList
  | .multiSelectHash _ => .multiSelectHash
  | .filter _ _ => .filter
  | .comparison _ _ _ => .comparison
  | .and _ _ => .and
  | .or _ _ => .or
  | .not _ => .not
  | .call _ _ => .call
  | .reference _ => .reference

-- The parts are listed in the order in which they are evaluated.
def children : Expr → List Expr
  | .current | .identity | .literal _ => []
  | .field source _ | .index source _ | .slice source _ _ _ | .flattenList source => [source]
  | .pipe left right | .sub left right | .comparison _ left right => [left, right]
  | .and left right | .or left right => [left, right]
  | .listProjection source body | .objectProjection source body => [source, body]
  | .flattenProjection source body => [source, body]
  | .filter source predicate => [source, predicate]
  | .multiSelectList items => items
  | .multiSelectHash entries => entries.map Prod.snd
  | .not operand => [operand]
  | .call _ arguments => arguments
  | .reference expression => [expression]

mutual

/-- The height of an expression; one without parts has depth one. -/
def depth : Expr → Nat
  | .current | .identity | .literal _ => 1
  | .field source _ | .index source _ | .slice source _ _ _ | .flattenList source =>
    source.depth + 1
  | .pipe left right | .sub left right | .comparison _ left right =>
    max left.depth right.depth + 1
  | .and left right | .or left right => max left.depth right.depth + 1
  | .listProjection source body | .objectProjection source body =>
    max source.depth body.depth + 1
  | .flattenProjection source body => max source.depth body.depth + 1
  | .filter source predicate => max source.depth predicate.depth + 1
  | .multiSelectList items => greatestDepth items + 1
  | .multiSelectHash entries => greatestEntryDepth entries + 1
  | .not operand => operand.depth + 1
  | .call _ arguments => greatestDepth arguments + 1
  | .reference expression => expression.depth + 1
termination_by structural expression => expression

def greatestDepth : List Expr → Nat
  | [] => 0
  | expression :: rest => max expression.depth (greatestDepth rest)
termination_by structural expressions => expressions

def greatestEntryDepth : List (String × Expr) → Nat
  | [] => 0
  | (_, expression) :: rest => max expression.depth (greatestEntryDepth rest)
termination_by structural entries => entries

end

theorem greatestEntryDepth_eq (entries : List (String × Expr)) :
    greatestEntryDepth entries = greatestDepth (entries.map Prod.snd) := by
  induction entries with
  | nil => rfl
  | cons entry rest ih => simp [greatestEntryDepth, greatestDepth, ih]

/-- The depth is one more than that of the deepest part. -/
theorem depth_eq (expression : Expr) :
    expression.depth = greatestDepth expression.children + 1 := by
  cases expression <;> simp [depth, children, greatestDepth, greatestEntryDepth_eq]

theorem depth_le_greatestDepth {expression : Expr} {expressions : List Expr}
    (member : expression ∈ expressions) : expression.depth ≤ greatestDepth expressions := by
  induction expressions with
  | nil => simp at member
  | cons first rest ih =>
    rcases List.mem_cons.1 member with rfl | later
    · exact Nat.le_max_left _ _
    · exact Nat.le_trans (ih later) (Nat.le_max_right _ _)

theorem depth_lt_of_mem_children {part expression : Expr}
    (member : part ∈ expression.children) : part.depth < expression.depth := by
  rw [expression.depth_eq]
  exact Nat.lt_succ_of_le (depth_le_greatestDepth member)

end Expr

end DocQuery
