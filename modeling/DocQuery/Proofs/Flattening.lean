import DocQuery.Proofs.Continuation
import DocQuery.Proofs.Json.Nesting

/-! Flattening, as a step of its own and as the opening of a projection. -/

set_option autoImplicit false

namespace DocQuery.Expr

-- Flattening leaves an array also of what is none.
theorem evaluate_flattenProjection_eq {V : Type} (environment : Environment V)
    (arrays : environment.toBinding.KeepsArrays) (source body : Expr) (focus : V) :
    (flattenProjection source body).evaluate environment focus =
      (listProjection (flattenList source) body).evaluate environment focus := by
  rw [evaluate_flattenProjection, evaluate_listProjection, evaluate_flattenList, bind_map_left]
  simp only [arrays.isArray_array, arrays.elements_array, if_true]

variable {functions : Registry Json} {source : Expr} {focus value : Json}

theorem outcome_flattenList
    (returned : (source.evaluate (Json.environment functions) focus).outcome = .ok value) :
    ((flattenList source).evaluate (Json.environment functions) focus).outcome =
      .ok value.flatten := by
  rw [evaluate_flattenList, Run.outcome_map, returned]
  rfl

theorem outcome_iterate_flattenList
    (returned : (source.evaluate (Json.environment functions) focus).outcome = .ok value)
    (count : Nat) :
    ((flattenList^[count] source).evaluate (Json.environment functions) focus).outcome =
      .ok (Json.flatten^[count] value) := by
  induction count with
  | zero => exact returned
  | succ count ih =>
    rw [Function.iterate_succ_apply', Function.iterate_succ_apply']
    exact outcome_flattenList ih

/-- Flattening takes one level off an array and keeps its leaves, in their order. Done as often as
there are further levels it leaves the array of the leaves, and then no longer changes it. A
flattening projection is the projection of a flattened source. -/
theorem flatten_one_level (functions : Registry Json) (elements : List Json) :
    (∃ flat : List Json,
      (∀ source focus,
        (source.evaluate (Json.environment functions) focus).outcome = .ok (.array elements) →
        ((flattenList source).evaluate (Json.environment functions) focus).outcome =
          .ok (.array flat)) ∧
      (Json.array flat).leaves = (Json.array elements).leaves ∧
      (Json.array flat).arrayDepth = max 1 ((Json.array elements).arrayDepth - 1)) ∧
    (∀ source focus,
      (source.evaluate (Json.environment functions) focus).outcome = .ok (.array elements) →
      ((flattenList^[(Json.array elements).arrayDepth - 1] source).evaluate
          (Json.environment functions) focus).outcome = .ok (.array (Json.array elements).leaves)) ∧
    (∀ source focus,
      (source.evaluate (Json.environment functions) focus).outcome =
        .ok (.array (Json.array elements).leaves) →
      ((flattenList source).evaluate (Json.environment functions) focus).outcome =
        .ok (.array (Json.array elements).leaves)) ∧
    ∀ source body focus,
      (flattenProjection source body).evaluate (Json.environment functions) focus =
        (listProjection (flattenList source) body).evaluate (Json.environment functions) focus := by
  obtain ⟨reached, shallow⟩ := Json.iterate_flatten_eq_leaves elements
  refine ⟨⟨elements.flatMap Json.spliced, ?_, ?_, ?_⟩, ?_, ?_, ?_⟩
  · intro source focus returned
    rw [outcome_flattenList returned, Json.flatten_array]
  · rw [← Json.flatten_array, Json.leaves_flatten_array]
  · rw [← Json.flatten_array, Json.arrayDepth_flatten_array]
  · intro source focus returned
    rw [outcome_iterate_flattenList returned, reached]
  · intro source focus returned
    rw [outcome_flattenList returned, Json.flatten_of_arrayDepth_le shallow]
  · exact evaluate_flattenProjection_eq (Json.environment functions) Json.keepsArrays

def nestedArrays : List Json :=
  [.array [.array [], .null, .array [.null]], .ofMembers [("a", .array [.array []])], .array []]

theorem flatten_one_level_nested :
    ((flattenList (flattenList current)).evaluate (Json.environment .empty)
        (.array nestedArrays)).outcome =
      .ok (.array [.null, .null, .ofMembers [("a", .array [.array []])]]) := by
  have nullKind : Json.null.kind ≠ .array := by decide
  have objectKind : (Json.ofMembers [("a", .array [.array []])]).kind ≠ .array := by decide
  have depth : (Json.array nestedArrays).arrayDepth = 3 := by
    simp [nestedArrays, Json.arrayDepth_array, Json.arrayDepth_of_kind_ne nullKind,
      Json.arrayDepth_of_kind_ne objectKind]
  have leaves : (Json.array nestedArrays).leaves =
      [.null, .null, .ofMembers [("a", .array [.array []])]] := by
    simp [nestedArrays, Json.leaves_array, Json.leaves_of_kind_ne nullKind,
      Json.leaves_of_kind_ne objectKind]
  obtain ⟨-, twice, -, -⟩ := flatten_one_level .empty nestedArrays
  rw [depth, leaves] at twice
  exact twice current (.array nestedArrays) rfl

end DocQuery.Expr
