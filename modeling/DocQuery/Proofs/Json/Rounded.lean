import DocQuery.Json.Binding
import DocQuery.Proofs.Binding.Equality
import DocQuery.Proofs.Json.Equality
import DocQuery.Proofs.Json.Exact

/-! Deep equality of JSON that is seen through accessors alone.

It differs from the equality of JSON in its numbers, which it compares as binary numbers. Integers
that are not rounded are compared as if exactly.
-/

set_option autoImplicit false

namespace DocQuery

variable {V : Type}

-- Rounded even between integers.
def Json.Number.sameRounded (first second : Number) : Bool :=
  first.toBinary64.equal second.toBinary64

/-- Every JSON value has an image, of which the accessors read the images of what the value is made
of. -/
structure Accessors.Reads (accessors : Accessors V) (image : Json → V) : Prop where
  kindOf (value : Json) : accessors.kindOf (image value) = value.kind
  elements (value : Json) : accessors.elements (image value) = value.elements.map image
  propertyNames (value : Json) :
    accessors.propertyNames (image value) = value.members.map Prod.fst
  property (value : Json) (name : String) :
    accessors.property (image value) name = image (value.property name)
  number? (value : Json) : accessors.number? (image value) = value.number?
  string? (value : Json) : accessors.string? (image value) = value.string?
  boolean? (value : Json) : accessors.boolean? (image value) = value.boolean?

namespace Accessors.Reads

open Json (array object number shapes contentInduction)

variable {accessors : Accessors V} {image : Json → V} {grounded : accessors.Grounded}
  {order : V → V → Option Ordering}

theorem compare?_number (reads : accessors.Reads image) (first second : Json.Number) :
    accessors.compare? (image (number first)) (image (number second)) =
      first.toBinary64.compare? second.toBinary64 := by
  rw [Accessors.compare?, reads.kindOf, reads.kindOf, reads.number?, reads.number?]
  rfl

theorem deepEquals_array (reads : accessors.Reads image) (elements elements' : List Json) :
    accessors.deepEquals grounded order (image (array elements)) (image (array elements')) = true ↔
      List.Forall₂ (fun element element' =>
        accessors.deepEquals grounded order (image element) (image element') = true)
          elements elements' := by
  refine (Accessors.deepEquals_array (reads.kindOf _) (reads.kindOf _)).trans ?_
  rw [reads.elements, reads.elements, Json.elements_array, Json.elements_array,
    List.forall₂_map_left_iff, List.forall₂_map_right_iff]

theorem deepEquals_object (reads : accessors.Reads image) {members members' : List (String × Json)}
    (distinct : (members.map Prod.fst).Nodup) (distinct' : (members'.map Prod.fst).Nodup) :
    accessors.deepEquals grounded order (image (object members distinct))
        (image (object members' distinct')) = true ↔
      ∀ name, Option.Rel (fun value value' =>
        accessors.deepEquals grounded order (image value) (image value') = true)
          (members.lookup name) (members'.lookup name) := by
  have property {values : List (String × Json)} (nodup : (values.map Prod.fst).Nodup)
      {name : String} {value : Json} (found : values.lookup name = some value) :
      accessors.property (image (object values nodup)) name = image value := by
    rw [reads.property, Json.property, Json.members_object, found]
    rfl
  rw [← lookup_rel_iff distinct distinct']
  refine (Accessors.deepEquals_object (reads.kindOf _) (reads.kindOf _)).trans ?_
  rw [reads.propertyNames, reads.propertyNames, Json.members_object, Json.members_object,
    Accessors.eraseDups_of_nodup distinct', List.length_map, List.length_map,
    List.forall_mem_map]
  refine and_congr_right fun _ => forall₂_congr fun member inside => ?_
  rw [property distinct (lookup_of_mem distinct inside)]
  constructor
  · rintro ⟨known, equal⟩
    obtain ⟨other, inside', same⟩ := List.mem_map.1 known
    have found := same ▸ lookup_of_mem distinct' inside'
    rw [property distinct' found] at equal
    exact ⟨other.2, found, equal⟩
  · rintro ⟨other, found, equal⟩
    rw [property distinct' found]
    exact ⟨List.mem_map.2 ⟨_, mem_of_lookup found, rfl⟩, equal⟩

/-- Deep equality descends as the equality of JSON does, down to binary numbers. -/
theorem deepEquals_eq_equalBy (reads : accessors.Reads image) (x y : Json) :
    accessors.deepEquals grounded accessors.compare? (image x) (image y) =
      x.equalBy Json.Number.sameRounded y := by
  induction x using contentInduction generalizing y with
  | step x elementsSame membersSame =>
    by_cases kinds : x.kind = y.kind
    · have left := reads.kindOf x
      have right := reads.kindOf y
      cases x using shapes with
      | null => cases y using shapes with
        | null => exact deepEquals_null left right
        | _ => cases kinds
      | boolean flag => cases y using shapes with
        | boolean flag' =>
          rw [deepEquals_boolean left right, reads.boolean?, reads.boolean?]
          rfl
        | _ => cases kinds
      | string text => cases y using shapes with
        | string text' =>
          rw [deepEquals_string left right, reads.string?, reads.string?]
          rfl
        | _ => cases kinds
      | number value => cases y using shapes with
        | number value' =>
          rw [deepEquals_number left right, reads.compare?_number]
          rfl
        | _ => cases kinds
      | array elements => cases y using shapes with
        | array elements' =>
          rw [Json.elements_array] at elementsSame
          apply Bool.eq_iff_iff.2
          refine (reads.deepEquals_array elements elements').trans
            (Iff.trans ?_ Json.equalBy_array.symm)
          apply forall₂_congr_of_mem
          intro element member element' _
          rw [elementsSame element member]
        | _ => cases kinds
      | object members distinct => cases y using shapes with
        | object members' distinct' =>
          rw [Json.members_object] at membersSame
          apply Bool.eq_iff_iff.2
          refine (reads.deepEquals_object distinct distinct').trans
            (Iff.trans ?_ (Json.equalBy_object distinct distinct').symm)
          refine forall_congr' fun name => rel_congr_of_eq ?_
          intro value found value' _
          rw [membersSame _ (mem_of_lookup found)]
        | _ => cases kinds
    · have unequal : x.equalBy Json.Number.sameRounded y = false :=
        Bool.eq_false_iff.2 fun same => kinds (Json.kind_of_equalBy same)
      rw [unequal]
      apply deepEquals_of_kind_ne
      rwa [reads.kindOf, reads.kindOf]

end Accessors.Reads

namespace Json

theorem sameRounded_of_sameValue {x y : Json} (same : x.sameValue y = true) :
    x.equalBy Number.sameRounded y = true :=
  equalBy_of_inside same fun _ _ _ _ => Number.equal_of_sameValue

/-- Rounding makes no difference where it leaves all integers as they are. -/
theorem sameRounded_eq_sameValue {x y : Json} (unrounded : x.IsExact) (unrounded' : y.IsExact) :
    x.equalBy Number.sameRounded y = x.sameValue y := by
  refine Bool.eq_iff_iff.2 ⟨fun same => ?_, sameRounded_of_sameValue⟩
  apply equalBy_of_inside same
  intro first second inside inside' equal
  have distinguished := (unrounded first inside).not_conflated (unrounded' second inside')
  exact ((Number.sameValue_eq_equal_iff first second).2 distinguished).trans equal

end Json

end DocQuery
