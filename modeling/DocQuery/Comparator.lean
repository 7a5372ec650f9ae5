/-! The comparison operators of the query language. -/

set_option autoImplicit false

namespace DocQuery

inductive Comparator where
  | equal
  | notEqual
  | less
  | lessEqual
  | greater
  | greaterEqual
  deriving DecidableEq, Repr

namespace Comparator

def all : List Comparator :=
  [.equal, .notEqual, .less, .lessEqual, .greater, .greaterEqual]

def symbol : Comparator → String
  | .equal => "=="
  | .notEqual => "!="
  | .less => "<"
  | .lessEqual => "<="
  | .greater => ">"
  | .greaterEqual => ">="

def name : Comparator → String
  | .equal => "Equal"
  | .notEqual => "NotEqual"
  | .less => "Less"
  | .lessEqual => "LessEqual"
  | .greater => "Greater"
  | .greaterEqual => "GreaterEqual"

def rank (operator : Comparator) : Nat :=
  all.idxOf operator

def ofSymbol? (text : String) : Option Comparator :=
  all.find? (·.symbol == text)

@[simp] theorem ofSymbol?_symbol (operator : Comparator) :
    ofSymbol? operator.symbol = some operator := by
  cases operator <;> rfl

/-- What an operator says of two values: whether they are equal, and their order if they have one.
An ordering operator says nothing of values without an order. -/
def verdict? (operator : Comparator) (equal : Bool) (order : Option Ordering) : Option Bool :=
  match operator with
  | .equal => some equal
  | .notEqual => some !equal
  | .less => order.map (· == .lt)
  | .lessEqual => order.map (· != .gt)
  | .greater => order.map (· == .gt)
  | .greaterEqual => order.map (· != .lt)

end Comparator

end DocQuery
