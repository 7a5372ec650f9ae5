import DocQuery.Binary64.Rounding
import DocQuery.Json.Basic
import DocQuery.Kind

/-! How queries see and build the values of a document.

A binding has accessors and constructors, from which all its other operations follow. A document
with a better way of its own for some of these may replace them.
-/

set_option autoImplicit false

namespace DocQuery

variable {V : Type}

structure Accessors (V : Type) where
  kindOf : V → Kind
  /-- The elements of an array; none of any other value. -/
  elements : V → List V
  /-- The property of a name; null where there is none. -/
  property : V → String → V
  /-- The names of an object's properties; none of any other value. -/
  propertyNames : V → List String
  number? : V → Option Binary64
  string? : V → Option String
  boolean? : V → Option Bool

structure Constructors (V : Type) where
  null : V
  boolean : Bool → V
  number : Binary64 → V
  string : String → V
  array : List V → V
  object : List (String × V) → V

namespace Accessors

variable (accessors : Accessors V)

def isArray (value : V) : Bool := accessors.kindOf value == .array

def isObject (value : V) : Bool := accessors.kindOf value == .object

def isNull (value : V) : Bool := accessors.kindOf value == .null

def kindName (value : V) : String := (accessors.kindOf value).name

/-- False, null and empty text, arrays and objects count as false. Every number counts as true,
zero too. -/
def isTruthy (arrayLength : V → Nat) (value : V) : Bool :=
  match accessors.kindOf value with
  | .null => false
  | .boolean => (accessors.boolean? value).getD false
  | .string => (accessors.string? value).any (!·.isEmpty)
  | .array => decide (0 < arrayLength value)
  | .object => !(accessors.propertyNames value).isEmpty
  | .number | .date => true

def arrayLength (value : V) : Nat :=
  (accessors.elements value).length

def elementAt (absent : V) (value : V) (position : Nat) : V :=
  (accessors.elements value)[position]?.getD absent

def propertyValues (value : V) : List V :=
  (accessors.propertyNames value).map (accessors.property value)

/-- The order of two numbers, or of two dates by their numbers. Null is equal to null, and no other
two values have an order. -/
def compare? (first second : V) : Option Ordering :=
  match accessors.kindOf first, accessors.kindOf second with
  | .null, .null => some .eq
  | .number, .number | .date, .date => do
    let x ← accessors.number? first
    let y ← accessors.number? second
    x.compare? y
  | _, _ => none

end Accessors

namespace Constructors

mutual

def ofRaw (constructors : Constructors V) : Json.Raw → V
  | .null => constructors.null
  | .boolean value => constructors.boolean value
  | .number value => constructors.number value.toBinary64
  | .string text => constructors.string text
  | .array elements => constructors.array (ofRawElements constructors elements)
  | .object members => constructors.object (ofRawMembers constructors members)
termination_by structural value => value

def ofRawElements (constructors : Constructors V) : List Json.Raw → List V
  | [] => []
  | element :: rest => ofRaw constructors element :: ofRawElements constructors rest
termination_by structural elements => elements

def ofRawMembers (constructors : Constructors V) :
    List (String × Json.Raw) → List (String × V)
  | [] => []
  | (name, value) :: rest => (name, ofRaw constructors value) :: ofRawMembers constructors rest
termination_by structural members => members

end

def ofJson (constructors : Constructors V) (value : Json) : V :=
  constructors.ofRaw value.raw

end Constructors

structure Binding (V : Type) extends Accessors V, Constructors V where
  equals : V → V → Bool
  isArray : V → Bool := toAccessors.isArray
  isObject : V → Bool := toAccessors.isObject
  isNull : V → Bool := toAccessors.isNull
  kindName : V → String := toAccessors.kindName
  arrayLength : V → Nat := toAccessors.arrayLength
  isTruthy : V → Bool := toAccessors.isTruthy arrayLength
  elementAt : V → Nat → V := toAccessors.elementAt null
  propertyValues : V → List V := toAccessors.propertyValues
  compare? : V → V → Option Ordering := toAccessors.compare?
  ofJson : Json → V := toConstructors.ofJson

end DocQuery
