import DocQuery.Expr.Basic

/-! Building expressions: in the shapes that the written language has, and from contexts with holes,
which are filled with an expression.

There are no holes below a reference: what it hands over is not evaluated in its place, but shown to
a function.
-/

set_option autoImplicit false

namespace DocQuery.Expr

def rawString (text : String) : Expr := .literal (Json.string text)

def named (name : String) : Expr := .field .current name

def positioned (position : Int64) : Expr := .index .current position

def between (start stop step : Option Int64) : Expr := .slice .current start stop step

def flatten (source : Expr) : Expr := .flattenProjection source .current

/-- `a.b.c`, nested to the left; no step at all is the current value. -/
def chain : List Expr → Expr
  | [] => .current
  | first :: steps => steps.foldl .sub first

inductive Context where
  | hole
  | current
  | identity
  | literal (value : Json)
  | field (source : Context) (name : String)
  | index (source : Context) (position : Int64)
  | slice (source : Context) (start stop step : Option Int64)
  | flattenList (source : Context)
  | pipe (left right : Context)
  | sub (left right : Context)
  | listProjection (source body : Context)
  | objectProjection (source body : Context)
  | flattenProjection (source body : Context)
  | multiSelectList (items : List Context)
  | multiSelectHash (entries : List (String × Context))
  | filter (source predicate : Context)
  | comparison (operator : Comparator) (left right : Context)
  | and (left right : Context)
  | or (left right : Context)
  | not (operand : Context)
  | call (name : String) (arguments : List Context)
  | reference (expression : Expr)

namespace Context

mutual

def fill : Context → Expr → Expr
  | .hole, filling => filling
  | .current, _ => .current
  | .identity, _ => .identity
  | .literal value, _ => .literal value
  | .field source name, filling => .field (source.fill filling) name
  | .index source position, filling => .index (source.fill filling) position
  | .slice source start stop step, filling => .slice (source.fill filling) start stop step
  | .flattenList source, filling => .flattenList (source.fill filling)
  | .pipe left right, filling => .pipe (left.fill filling) (right.fill filling)
  | .sub left right, filling => .sub (left.fill filling) (right.fill filling)
  | .listProjection source body, filling =>
    .listProjection (source.fill filling) (body.fill filling)
  | .objectProjection source body, filling =>
    .objectProjection (source.fill filling) (body.fill filling)
  | .flattenProjection source body, filling =>
    .flattenProjection (source.fill filling) (body.fill filling)
  | .multiSelectList items, filling => .multiSelectList (fillAll items filling)
  | .multiSelectHash entries, filling => .multiSelectHash (fillEntries entries filling)
  | .filter source predicate, filling => .filter (source.fill filling) (predicate.fill filling)
  | .comparison operator left right, filling =>
    .comparison operator (left.fill filling) (right.fill filling)
  | .and left right, filling => .and (left.fill filling) (right.fill filling)
  | .or left right, filling => .or (left.fill filling) (right.fill filling)
  | .not operand, filling => .not (operand.fill filling)
  | .call name arguments, filling => .call name (fillAll arguments filling)
  | .reference expression, _ => .reference expression
termination_by structural context => context

def fillAll : List Context → Expr → List Expr
  | [], _ => []
  | context :: rest, filling => context.fill filling :: fillAll rest filling
termination_by structural contexts => contexts

def fillEntries : List (String × Context) → Expr → List (String × Expr)
  | [], _ => []
  | (key, context) :: rest, filling => (key, context.fill filling) :: fillEntries rest filling
termination_by structural entries => entries

end

end Context

end DocQuery.Expr
