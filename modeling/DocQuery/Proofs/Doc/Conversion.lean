import DocQuery.Doc.Binding
import DocQuery.Proofs.Json.Rounded

/-! JSON values as the values of a document that knows only the accessors and constructors.

What is read from a converted value is converted from what is read from the JSON value, and
converted values are equal if the JSON values are, unless these hold integers that are rounded.
-/

set_option autoImplicit false

namespace DocQuery

namespace Constructors

variable {V : Type} (constructors : Constructors V)

theorem ofJson_array (elements : List Json) :
    constructors.ofJson (.array elements) =
      constructors.array (elements.map constructors.ofJson) := by
  change constructors.array (constructors.ofRawElements (elements.map Json.raw)) = _
  congr 1
  induction elements with
  | nil => rfl
  | cons element rest ih => exact congrArg (constructors.ofJson element :: ·) ih

theorem ofJson_object (members : List (String × Json)) (distinct : (members.map Prod.fst).Nodup) :
    constructors.ofJson (.object members distinct) =
      constructors.object (members.map fun member => (member.1, constructors.ofJson member.2)) := by
  change constructors.object
    (constructors.ofRawMembers (members.map fun member => (member.1, member.2.raw))) = _
  clear distinct
  congr 1
  induction members with
  | nil => rfl
  | cons member rest ih =>
    exact congrArg ((member.1, constructors.ofJson member.2) :: ·) ih

end Constructors

namespace Doc

open Json (array object shapes)

theorem kind_ofJson (value : Json) : (binding.ofJson value).kind = value.kind := by
  cases value using shapes <;> rfl

theorem elements_ofJson (value : Json) :
    (binding.ofJson value).elements = value.elements.map binding.ofJson := by
  cases value using shapes with
  | array elements =>
    rw [Json.elements_array]
    exact congrArg Doc.elements (constructors.ofJson_array elements)
  | _ => rfl

theorem members_ofJson (value : Json) :
    (binding.ofJson value).members =
      value.members.map fun member => (member.1, binding.ofJson member.2) := by
  cases value using shapes with
  | object members distinct =>
    rw [Json.members_object]
    exact congrArg Doc.members (constructors.ofJson_object members distinct)
  | _ => rfl

theorem property_ofJson (value : Json) (name : String) :
    (binding.ofJson value).property name = binding.ofJson (value.property name) := by
  rw [Doc.property, members_ofJson, lookup_map_snd, Json.property]
  cases value.members.lookup name <;> rfl

theorem propertyNames_ofJson (value : Json) :
    binding.propertyNames (binding.ofJson value) = value.members.map Prod.fst := by
  change (binding.ofJson value).members.map Prod.fst = _
  rw [members_ofJson, List.map_map]
  rfl

-- No name is repeated, so looking up one after the other gives the values in their order.
theorem propertyValues_ofJson (value : Json) :
    binding.propertyValues (binding.ofJson value) =
      (Json.binding.propertyValues value).map binding.ofJson := by
  change (binding.propertyNames (binding.ofJson value)).map (binding.ofJson value).property =
    (value.members.map Prod.snd).map binding.ofJson
  rw [propertyNames_ofJson, List.map_map, List.map_map]
  apply List.map_congr_left
  intro member inside
  have found := lookup_of_mem value.nodup_members inside
  rw [Function.comp_apply, property_ofJson, Json.property, found]
  rfl

theorem number?_ofJson (value : Json) : (binding.ofJson value).number? = value.number? := by
  cases value using shapes <;> rfl

theorem isTruthy_ofJson (value : Json) :
    binding.isTruthy (binding.ofJson value) = Json.binding.isTruthy value := by
  cases value using shapes with
  | array elements =>
    change decide (0 < (binding.ofJson (array elements)).elements.length) =
      decide (0 < (array elements).arrayLength)
    rw [elements_ofJson, List.length_map, Json.arrayLength_eq]
  | object members distinct =>
    change (!(binding.propertyNames (binding.ofJson (object members distinct))).isEmpty) = !_
    rw [propertyNames_ofJson]
    rfl
  | _ => rfl

theorem compare?_ofJson (first second : Json) :
    binding.compare? (binding.ofJson first) (binding.ofJson second) =
      Json.binding.compare? first second := by
  have kinds (value : Json) : binding.kindOf (binding.ofJson value) = Json.binding.kindOf value :=
    kind_ofJson value
  have numbers (value : Json) :
      binding.number? (binding.ofJson value) = Json.binding.number? value :=
    number?_ofJson value
  change binding.toAccessors.compare? _ _ = Json.binding.toAccessors.compare? _ _
  simp only [Accessors.compare?, kinds, numbers]

theorem reads_ofJson : accessors.Reads binding.ofJson where
  kindOf := kind_ofJson
  elements := elements_ofJson
  propertyNames := propertyNames_ofJson
  property := property_ofJson
  number? := number?_ofJson
  string? value := by cases value using shapes <;> rfl
  boolean? value := by cases value using shapes <;> rfl

/-- Equality descends the same way on both sides, and tells apart the same numbers unless these are
integers that are rounded. -/
theorem equals_ofJson {x y : Json} (unrounded : x.IsExact) (unrounded' : y.IsExact) :
    binding.equals (binding.ofJson x) (binding.ofJson y) = x.sameValue y :=
  (reads_ofJson.deepEquals_eq_equalBy x y).trans
    (Json.sameRounded_eq_sameValue unrounded unrounded')

end Doc

end DocQuery
