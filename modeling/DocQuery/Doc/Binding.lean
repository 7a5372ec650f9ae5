import DocQuery.Binding.Equality
import DocQuery.Function

/-! Documents with dates and with records that may repeat a name.

Queries see them with no operation but those that follow from the accessors and constructors.
-/

set_option autoImplicit false

namespace DocQuery

inductive Doc where
  | null
  | boolean (value : Bool)
  | number (value : Binary64)
  | string (text : String)
  | list (elements : List Doc)
  | record (members : List (String × Doc))
  /-- A point in time, in seconds. -/
  | date (seconds : Int64)
  /-- A date that is known by its text alone. -/
  | dateText (text : String)
  /-- A value of which only the kind can be seen. -/
  | sealed (kind : Kind)

namespace Doc

def kind : Doc → Kind
  | .null => .null
  | .boolean _ => .boolean
  | .number _ => .number
  | .string _ => .string
  | .list _ => .array
  | .record _ => .object
  | .date _ => .date
  | .dateText _ => .date
  | .sealed found => found

def elements : Doc → List Doc
  | .list elements => elements
  | _ => []

def members : Doc → List (String × Doc)
  | .record members => members
  | _ => []

/-- The first member of a name counts. -/
def property (value : Doc) (name : String) : Doc :=
  (value.members.lookup name).getD .null

def number? : Doc → Option Binary64
  | .number value => some value
  | .date seconds => some (.ofInt seconds.toInt)
  | _ => none

def string? : Doc → Option String
  | .string text => some text
  | .dateText text => some text
  | _ => none

def boolean? : Doc → Option Bool
  | .boolean value => some value
  | _ => none

def accessors : Accessors Doc where
  kindOf := kind
  elements := elements
  property := property
  propertyNames value := value.members.map Prod.fst
  number? := number?
  string? := string?
  boolean? := boolean?

def constructors : Constructors Doc where
  null := .null
  boolean := .boolean
  number := .number
  string := .string
  array := .list
  object := .record

theorem sizeOf_lt_of_holds {part value : Doc} (held : accessors.Holds part value) :
    sizeOf part < sizeOf value := by
  cases held with
  | element member =>
    cases value <;> simp only [accessors, elements, List.not_mem_nil] at member
    next elements =>
      have := List.sizeOf_lt_of_mem member
      simp only [Doc.list.sizeOf_spec]
      omega
  | @property value name member =>
    cases value <;> simp only [accessors, members, List.map_nil, List.not_mem_nil] at member
    next members =>
      simp only [accessors, property, Doc.members, Doc.record.sizeOf_spec]
      induction members with
      | nil => simp at member
      | cons first rest ih =>
        obtain ⟨other, found⟩ := first
        simp only [List.lookup_cons]
        split
        · simp only [Option.getD_some, List.cons.sizeOf_spec, Prod.mk.sizeOf_spec]
          omega
        · next different =>
          have later : name ∈ rest.map Prod.fst := by
            simpa [(beq_eq_false_iff_ne.1 different)] using member
          have := ih later
          simp only [List.cons.sizeOf_spec]
          omega

theorem grounded : accessors.Grounded :=
  Subrelation.wf sizeOf_lt_of_holds (measure (sizeOf : Doc → Nat)).wf

def binding : Binding Doc where
  toAccessors := accessors
  toConstructors := constructors
  equals := accessors.deepEquals grounded accessors.compare?

def environment (functions : Option (Registry Doc)) : Environment Doc where
  toBinding := binding
  functions := functions

end Doc

end DocQuery
