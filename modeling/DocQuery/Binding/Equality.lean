import DocQuery.Binding.Basic

/-! Deep equality of values that are seen through accessors alone. -/

set_option autoImplicit false

namespace DocQuery.Accessors

variable {V : Type}

inductive Holds (accessors : Accessors V) : V → V → Prop where
  | element {part value : V} : part ∈ accessors.elements value → Holds accessors part value
  | property {value : V} {name : String} : name ∈ accessors.propertyNames value →
      Holds accessors (accessors.property value name) value

/-- Descending into values always comes to an end. -/
def Grounded (accessors : Accessors V) : Prop := WellFounded accessors.Holds

/-- Equality of kind and content. The properties of objects are compared by name, once the first
object has as many names as there are different ones in the second. -/
def deepEquals (accessors : Accessors V) (grounded : accessors.Grounded)
    (order : V → V → Option Ordering) (first second : V) : Bool :=
  if accessors.kindOf first = accessors.kindOf second then
    match accessors.kindOf first with
    | .null => true
    | .boolean => accessors.boolean? first == accessors.boolean? second
    | .string => accessors.string? first == accessors.string? second
    | .number => order first second == some .eq
    | .date =>
      match order first second with
      | none => accessors.string? first == accessors.string? second
      | some found => found == .eq
    | .array =>
      let left := accessors.elements first
      let right := accessors.elements second
      left.length == right.length &&
        (left.attach.zip right).all fun pair =>
          deepEquals accessors grounded order pair.1.val pair.2
    | .object =>
      let left := accessors.propertyNames first
      let right := accessors.propertyNames second
      left.length == right.eraseDups.length &&
        left.attach.all fun name =>
          right.contains name.val &&
            deepEquals accessors grounded order (accessors.property first name.val)
              (accessors.property second name.val)
  else
    false
termination_by grounded.wrap first
decreasing_by
  · exact .element pair.1.property
  · exact .property name.property

end DocQuery.Accessors
