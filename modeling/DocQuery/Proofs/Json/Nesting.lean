import Mathlib.Order.Lattice
import DocQuery.Eval
import DocQuery.Json.Binding
import DocQuery.Proofs.Json.Structure

/-! Arrays in arrays, and flattening them by one level.

Flattening keeps the leaves, and takes one level off the depth as long as there is more than one.
-/

set_option autoImplicit false

namespace DocQuery.Json

/-- What stands in an array, or in an array in it, and is not an array. An object is one leaf,
whatever its members are. -/
def leaves (value : Json) : List Json :=
  if value.kind = .array then value.elements.attach.flatMap fun element => element.val.leaves
  else [value]
termination_by sizeOf value.raw
decreasing_by exact sizeOf_lt_of_mem_elements element.property

/-- How many arrays there are in one another, from a value down to the innermost array. -/
def arrayDepth (value : Json) : Nat :=
  if value.kind = .array then
    (value.elements.attach.map fun element => element.val.arrayDepth).foldr max 0 + 1
  else 0
termination_by sizeOf value.raw
decreasing_by exact sizeOf_lt_of_mem_elements element.property

variable {value : Json} {elements : List Json}

theorem kind_array : (array elements).kind = .array := rfl

theorem exists_eq_array (isArray : value.kind = .array) : ∃ elements, value = array elements := by
  cases value using shapes with
  | array elements => exact ⟨elements, rfl⟩
  | _ => cases isArray

theorem leaves_array : (array elements).leaves = elements.flatMap leaves := by
  rw [leaves, if_pos kind_array, elements_array]
  conv_rhs => rw [← elements.attach_map_subtype_val, List.flatMap_map]

theorem leaves_of_kind_ne (other : value.kind ≠ .array) : value.leaves = [value] := by
  rw [leaves, if_neg other]

theorem arrayDepth_array :
    (array elements).arrayDepth = (elements.map arrayDepth).foldr max 0 + 1 := by
  rw [arrayDepth, if_pos kind_array, elements_array]
  conv_rhs => rw [← elements.attach_map_subtype_val, List.map_map]
  rfl

theorem arrayDepth_of_kind_ne (other : value.kind ≠ .array) : value.arrayDepth = 0 := by
  rw [arrayDepth, if_neg other]

theorem foldr_max_le_iff {depths : List Nat} {bound : Nat} :
    depths.foldr max 0 ≤ bound ↔ ∀ depth ∈ depths, depth ≤ bound := by
  induction depths with
  | nil => simp
  | cons depth rest ih => rw [List.foldr_cons, Nat.max_le, ih, List.forall_mem_cons]

theorem arrayDepth_array_le_iff {bound : Nat} :
    (array elements).arrayDepth ≤ bound + 1 ↔ ∀ element ∈ elements, element.arrayDepth ≤ bound := by
  rw [arrayDepth_array, Nat.add_le_add_iff_right, foldr_max_le_iff, List.forall_mem_map]

theorem arrayDepth_array_pos : 0 < (array elements).arrayDepth := by
  rw [arrayDepth_array]
  exact Nat.succ_pos _

-- The elements of an array among the elements take its place.
def flatten (value : Json) : Json :=
  array (binding.flattened value)

def spliced (element : Json) : List Json :=
  if element.kind = .array then element.elements else [element]

theorem flatten_array : (array elements).flatten = array (elements.flatMap spliced) := by
  have opened (element : Json) :
      (if binding.isArray element then binding.elements element else [element]) =
        element.spliced :=
    if_congr beq_iff_eq rfl rfl
  change array ((array elements).elements.flatMap _) = _
  simp only [elements_array, opened]

theorem flatMap_leaves_spliced (element : Json) :
    element.spliced.flatMap leaves = element.leaves := by
  by_cases isArray : element.kind = .array
  · obtain ⟨inner, rfl⟩ := exists_eq_array isArray
    rw [spliced, if_pos isArray, elements_array, leaves_array]
  · rw [spliced, if_neg isArray, List.flatMap_singleton]

theorem arrayDepth_spliced_le_iff {element : Json} {bound : Nat} :
    (∀ part ∈ element.spliced, part.arrayDepth ≤ bound) ↔ element.arrayDepth ≤ bound + 1 := by
  by_cases isArray : element.kind = .array
  · obtain ⟨inner, rfl⟩ := exists_eq_array isArray
    rw [spliced, if_pos isArray, elements_array, arrayDepth_array_le_iff]
  · simp [spliced, isArray, arrayDepth_of_kind_ne isArray]

theorem leaves_flatten_array : (array elements).flatten.leaves = (array elements).leaves := by
  rw [flatten_array, leaves_array, leaves_array, List.flatMap_assoc]
  simp only [flatMap_leaves_spliced]

-- The depth is bounded through the elements, and each of these by what takes its place.
theorem arrayDepth_flatten_array :
    (array elements).flatten.arrayDepth = max 1 ((array elements).arrayDepth - 1) := by
  apply eq_of_forall_ge_iff
  intro bound
  rw [flatten_array]
  cases bound with
  | zero =>
    have deep : 0 < (array (elements.flatMap spliced)).arrayDepth := arrayDepth_array_pos
    omega
  | succ bound =>
    have within : (array (elements.flatMap spliced)).arrayDepth ≤ bound + 1 ↔
        (array elements).arrayDepth ≤ bound + 2 := by
      rw [arrayDepth_array_le_iff, arrayDepth_array_le_iff, List.forall_mem_flatMap]
      exact forall₂_congr fun element _ => arrayDepth_spliced_le_iff
    rw [within, Nat.max_le]
    omega

theorem leaves_of_arrayDepth_le (shallow : (array elements).arrayDepth ≤ 1) :
    (array elements).leaves = elements := by
  have scalar (element : Json) (member : element ∈ elements) : element.leaves = [element] := by
    apply leaves_of_kind_ne
    intro isArray
    obtain ⟨inner, rfl⟩ := exists_eq_array isArray
    have deep : 0 < (array inner).arrayDepth := arrayDepth_array_pos
    have below := arrayDepth_array_le_iff.1 shallow _ member
    omega
  rw [leaves_array, List.flatMap_congr scalar, List.flatMap_singleton']

theorem flatten_of_arrayDepth_le (shallow : (array elements).arrayDepth ≤ 1) :
    (array elements).flatten = array elements := by
  have sameLeaves : (array elements).flatten.leaves = elements :=
    leaves_flatten_array.trans (leaves_of_arrayDepth_le shallow)
  have again : (array elements).flatten.arrayDepth ≤ 1 := by
    rw [arrayDepth_flatten_array]
    omega
  rw [flatten_array] at sameLeaves again ⊢
  rw [← leaves_of_arrayDepth_le again, sameLeaves]

theorem iterate_flatten_array (elements : List Json) (count : Nat) :
    ∃ flat, flatten^[count] (array elements) = array flat ∧
      (array flat).leaves = (array elements).leaves ∧
      (array flat).arrayDepth = max 1 ((array elements).arrayDepth - count) := by
  induction count with
  | zero =>
    have deep : 0 < (array elements).arrayDepth := arrayDepth_array_pos
    exact ⟨elements, rfl, rfl, by omega⟩
  | succ count ih =>
    obtain ⟨flat, reached, sameLeaves, depth⟩ := ih
    refine ⟨flat.flatMap spliced, ?_, ?_, ?_⟩
    · rw [Function.iterate_succ_apply', reached, flatten_array]
    · rw [← flatten_array, leaves_flatten_array, sameLeaves]
    · rw [← flatten_array, arrayDepth_flatten_array, depth]
      omega

/-- Flattening until one level is left gives the leaves, which have one level. -/
theorem iterate_flatten_eq_leaves (elements : List Json) :
    flatten^[(array elements).arrayDepth - 1] (array elements) = array (array elements).leaves ∧
      (array (array elements).leaves).arrayDepth ≤ 1 := by
  obtain ⟨flat, reached, sameLeaves, depth⟩ :=
    iterate_flatten_array elements ((array elements).arrayDepth - 1)
  have shallow : (array flat).arrayDepth ≤ 1 := by omega
  rw [reached, ← sameLeaves, leaves_of_arrayDepth_le shallow]
  exact ⟨rfl, shallow⟩

end DocQuery.Json
