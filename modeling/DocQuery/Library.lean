import DocQuery.Expr.Text
import DocQuery.Function

/-! A library of functions for queries, over documents of any binding. -/

set_option autoImplicit false

namespace DocQuery

variable {V : Type}

inductive Routine where
  /-- The size of text, of an array or of an object. -/
  | length
  /-- The sum of an array's numbers. -/
  | sum
  /-- The elements of an array in the order of their keys, which must be numbers. -/
  | sortBy
  /-- Texts one after the other. -/
  | concat
  /-- The argument itself; its values are watched. -/
  | tap
  /-- The values of an expression on the elements of an array. -/
  | map
  /-- The value of an expression on another value. -/
  | apply
  /-- The number of arguments. -/
  | count
  /-- The last argument. -/
  | last
  /-- Expressions as written, and values by their kinds. -/
  | describe
  /-- An object of the arguments, named by their positions. -/
  | object
  /-- A failure with a message. -/
  | failure
  | null
  deriving DecidableEq, Repr

namespace Routine

-- Unknown names have the null routine.
def ofName : String → Routine
  | "length" => .length
  | "sum" => .sum
  | "sort_by" => .sortBy
  | "concat" => .concat
  | "tap" => .tap
  | "map" => .map
  | "apply" => .apply
  | "count" => .count
  | "last" => .last
  | "show" => .describe
  | "object" => .object
  | "fail" => .failure
  | _ => .null

-- Null, if the argument is an expression or there is none.
def valueAt (binding : Binding V) (arguments : List (Argument V)) (position : Nat) : V :=
  (arguments[position]?.bind Argument.value?).getD binding.null

def evaluated (name : String) (arguments : List (Argument V)) (position : Nat) (current : V) :
    Action V V :=
  if position < arguments.length then .answer position current
  else .fail (.functionFailed name "missing argument")

def lengthOf (binding : Binding V) (value : V) : Nat :=
  match binding.kindOf value with
  | .string => ((binding.string? value).map String.length).getD 0
  | .array => binding.arrayLength value
  | _ => (binding.propertyNames value).length

def sortKey (name : String) (binding : Binding V) (arguments : List (Argument V)) (element : V) :
    Action V (V × V) := do
  let key ← evaluated name arguments 1 element
  if binding.kindOf key = .number then pure (key, element)
  else .fail (.functionFailed name ("expected number keys, got " ++ binding.kindName key))

/-- Put an item before the run of greater items at the end; the list is reversed. -/
def insertByKey (binding : Binding V) (item : V × V) : List (V × V) → List (V × V)
  | [] => [item]
  | other :: rest =>
    if binding.compare? item.1 other.1 = some .lt then other :: insertByKey binding item rest
    else item :: other :: rest

/-- Sort by keys; items whose keys have no order stay in place. -/
def sortedByKey (binding : Binding V) (items : List (V × V)) : List V :=
  (items.foldl (fun sorted item => insertByKey binding item sorted) []).reverse.map Prod.snd

def description (binding : Binding V) : Argument V → String
  | .expression given => given.text
  | .value given => binding.kindName given

def body (routine : Routine) (name : String) (binding : Binding V)
    (arguments : List (Argument V)) : Action V V :=
  let value := valueAt binding arguments
  match routine with
  | .length => pure (binding.number (.ofInt (lengthOf binding (value 0))))
  | .sum => pure (binding.number (.sum ((binding.elements (value 0)).filterMap binding.number?)))
  | .sortBy => do
    let items ← (binding.elements (value 0)).mapM (sortKey name binding arguments)
    pure (binding.array (sortedByKey binding items))
  | .concat =>
    pure (binding.string (String.join
      ((arguments.filterMap Argument.value?).filterMap binding.string?)))
  | .tap => pure (value 0)
  | .map => do
    let results ← (binding.elements (value 1)).mapM (evaluated name arguments 0)
    pure (binding.array results)
  | .apply => evaluated name arguments 0 (value 1)
  | .count => pure (binding.number (.ofInt arguments.length))
  | .last => pure (value (arguments.length - 1))
  | .describe =>
    pure (binding.array (arguments.map fun argument =>
      binding.string (description binding argument)))
  | .object =>
    pure (binding.object ((arguments.filterMap Argument.value?).mapIdx fun position given =>
      ("k" ++ toString position, given)))
  | .failure => .fail (.functionFailed name ((binding.string? (value 0)).getD ""))
  | .null => pure binding.null

end Routine

structure Declaration where
  name : String
  signature : Signature
  routine : Routine

namespace Declaration

def function (declaration : Declaration) : Function V where
  name := declaration.name
  signature := declaration.signature
  body := declaration.routine.body declaration.name

/-- The values that were handed to `tap` functions, where later declarations replace earlier ones
of their name. -/
def tapped (declarations : List Declaration) (binding : Binding V) (calls : List (Call V)) :
    List V :=
  calls.filterMap fun call =>
    match declarations.reverse.find? (·.name == call.name) with
    | some declaration =>
      if declaration.routine = .tap then some (Routine.valueAt binding call.arguments 0) else none
    | none => none

def standard : List Declaration :=
  [⟨"length", .exact [.kinds [.string, .array, .object]], .length⟩,
   ⟨"sum", .exact [.arrayOf [.number]], .sum⟩,
   ⟨"sort_by", .exact [.kinds [.array], .expression], .sortBy⟩,
   ⟨"concat", .variadic [.kinds [.string], .kinds [.string]], .concat⟩,
   ⟨"tap", .exact [.any], .tap⟩,
   ⟨"map", .exact [.expression, .kinds [.array]], .map⟩,
   ⟨"apply", .exact [.expression, .any], .apply⟩,
   ⟨"count", .variadic [], .count⟩,
   ⟨"last", .withOptional [.any, .kinds [.number, .date], .kinds [.string]] 1, .last⟩,
   ⟨"show", .withOptional [.expression, .expression] 0, .describe⟩,
   ⟨"object", .variadic [.any], .object⟩,
   ⟨"fail", .exact [.kinds [.string]], .failure⟩]

end Declaration

end DocQuery
