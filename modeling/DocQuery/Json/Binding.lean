import DocQuery.Function
import DocQuery.Json.Equality

/-! JSON documents as queries see them.

Constants are values already. Arrays and objects are read directly, and integers are compared
exactly for equality, though not for order.
-/

set_option autoImplicit false

namespace DocQuery.Json

def kind (value : Json) : Kind :=
  match value.raw with
  | .null => .null
  | .boolean _ => .boolean
  | .number _ => .number
  | .string _ => .string
  | .array _ => .array
  | .object _ => .object

def property (value : Json) (name : String) : Json :=
  (value.members.lookup name).getD null

def number? (value : Json) : Option Binary64 :=
  match value.raw with
  | .number found => some found.toBinary64
  | _ => none

def string? (value : Json) : Option String :=
  match value.raw with
  | .string found => some found
  | _ => none

def boolean? (value : Json) : Option Bool :=
  match value.raw with
  | .boolean found => some found
  | _ => none

def accessors : Accessors Json where
  kindOf := kind
  elements := elements
  property := property
  propertyNames value := value.members.map Prod.fst
  number? := number?
  string? := string?
  boolean? := boolean?

/-- A small integer where the number is one. What is not finite has no form in JSON and is null. -/
def ofBinary64 (value : Binary64) : Json :=
  ((Number.ofValue? value).map number).getD null

def constructors : Constructors Json where
  null := null
  boolean := boolean
  number := ofBinary64
  string := string
  array := array
  object := ofMembers

def arrayLength (value : Json) : Nat :=
  match value.raw with
  | .array elements => elements.length
  | _ => 0

def get? : Json → Nat → Option Json
  | ⟨.array elements, distinct⟩, position =>
    elements[position]?.pmap Json.mk fun _ found =>
      Raw.distinct_array.1 distinct _ (List.mem_of_getElem? found)
  | _, _ => none

theorem arrayLength_eq (value : Json) : value.arrayLength = value.elements.length := by
  obtain ⟨raw, distinct⟩ := value
  cases raw with
  | array elements => exact (List.length_pmap ..).symm
  | _ => rfl

theorem get?_eq (value : Json) (position : Nat) :
    value.get? position = value.elements[position]? := by
  obtain ⟨raw, distinct⟩ := value
  cases raw with
  | array elements => exact (List.getElem?_pmap ..).symm
  | _ => rfl

def binding : Binding Json where
  toAccessors := accessors
  toConstructors := constructors
  equals := sameValue
  arrayLength := arrayLength
  elementAt value position := (value.get? position).getD null
  propertyValues value := value.members.map Prod.snd
  ofJson := id

def environment (functions : Registry Json) : Environment Json where
  toBinding := binding
  functions := some functions

def plainEnvironment : Environment Json := environment .empty

end DocQuery.Json
