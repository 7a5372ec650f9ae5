import DocQuery.Json.Binding
import DocQuery.Proofs.Eval.Equations
import DocQuery.Proofs.Slice.Elements

/-! Indices and slices of arrays agree about positions.

They count negative positions from the end by arithmetic of their own, and still cut an array in the
same places.
-/

set_option autoImplicit false

namespace DocQuery

namespace Json

variable (elements : List Json)

theorem isArray_array : binding.isArray (array elements) = true := rfl

theorem index_array (position : Int64) :
    binding.index (array elements) position =
      (Slice.elementAt? elements position).getD null := by
  have length : binding.arrayLength (array elements) = elements.length := by
    change (array elements).arrayLength = _
    rw [arrayLength_eq, elements_array]
  rw [Binding.index, if_pos (isArray_array elements), length, Slice.elementAt?]
  cases Slice.resolveIndex position elements.length with
  | none => rfl
  | some place =>
    change ((array elements).get? place).getD null = _
    rw [get?_eq, elements_array]
    rfl

theorem slice_array (start stop : Option Int64) (step : Int64) :
    binding.slice (array elements) start stop step =
      array (Slice.select elements start stop step) := by
  rw [Binding.slice, if_pos (isArray_array elements)]
  change array (Slice.select (array elements).elements start stop step) = _
  rw [elements_array]

end Json

namespace Expr

section

variable {functions : Registry Json} {elements : List Json} {source : Expr} {focus : Json}
  (returned : (source.evaluate (Json.environment functions) focus).outcome = .ok (.array elements))

include returned

theorem outcome_index (position : Int64) :
    ((index source position).evaluate (Json.environment functions) focus).outcome =
      .ok ((Slice.elementAt? elements position).getD .null) := by
  rw [evaluate_index, Run.outcome_map, returned]
  exact congrArg Except.ok (Json.index_array elements position)

theorem outcome_slice (start stop : Option Int64) {step : Option Int64}
    (nonzero : step.getD 1 ≠ 0) :
    ((slice source start stop step).evaluate (Json.environment functions) focus).outcome =
      .ok (.array (Slice.select elements start stop (step.getD 1))) := by
  rw [evaluate_slice, if_neg nonzero, Run.outcome_map, returned]
  exact congrArg Except.ok (Json.slice_array elements start stop (step.getD 1))

/-- A bound cuts an array in two slices. An index means the first element of the slice from there,
and the same element as its mirror image in the reversed array; it means null if it is not in the
array. Slicing by one step and then by another is slicing by their product. The length of an array
is a word, like every position in it. -/
theorem index_slice_coherent (fits : elements.length < 0x8000000000000000) :
    let outcome (expression : Expr) :=
      (expression.evaluate (Json.environment functions) focus).outcome
    (∀ bound : Int64, ∃ before after,
      outcome (slice source none (some bound) none) = .ok (.array before) ∧
      outcome (slice source (some bound) none none) = .ok (.array after) ∧
      before ++ after = elements) ∧
    (∀ position : Int64, (-1 - position).toInt = -1 - position.toInt ∧
      outcome (index source position) =
        outcome (index (slice source none none (some (-1))) (-1 - position))) ∧
    (∀ position : Int64,
      (-elements.length ≤ position.toInt ∧ position.toInt < elements.length →
        ∃ first rest, outcome (slice source (some position) none none) =
            .ok (.array (first :: rest)) ∧
          outcome (index source position) = .ok first) ∧
      (¬ (-elements.length ≤ position.toInt ∧ position.toInt < elements.length) →
        outcome (index source position) = .ok .null)) ∧
    ∀ step further : Int64, 1 ≤ step.toInt → 1 ≤ further.toInt →
      step.toInt * further.toInt ≤ Int64.maxValue.toInt →
      ∃ sliced,
        outcome (slice (slice source none none (some step)) none none (some further)) =
          .ok (.array sliced) ∧
        outcome (slice source none none (some (step * further))) = .ok (.array sliced) := by
  intro outcome
  have indexed (position : Int64) : outcome (index source position) = .ok _ :=
    outcome_index returned position
  have sliced (start stop : Option Int64) :
      outcome (slice source start stop none) = .ok (.array _) :=
    outcome_slice returned start stop (by decide)
  refine ⟨?cut, ?mirrored, ?first, ?composed⟩
  case cut =>
    intro bound
    exact ⟨_, _, sliced none (some bound), sliced (some bound) none,
      Slice.select_append fits bound⟩
  case mirrored =>
    intro position
    have reversed : outcome (slice source none none (some (-1))) =
        .ok (.array elements.reverse) := by
      rw [← Slice.select_backwards fits]
      exact outcome_slice returned none none (by decide)
    have mirrored : outcome (index (slice source none none (some (-1))) (-1 - position)) = .ok _ :=
      outcome_index reversed (-1 - position)
    refine ⟨Slice.toInt_mirrored position, ?_⟩
    rw [indexed, mirrored, Slice.elementAt?_reverse fits]
  case first =>
    intro position
    constructor
    · intro inside
      obtain ⟨first, rest, begins, found⟩ := Slice.exists_select_from_of_inside fits inside
      refine ⟨first, rest, ?_, ?_⟩
      · rw [← begins]
        exact sliced (some position) none
      · rw [indexed, found, Option.getD_some]
    · intro outside
      rw [indexed, Slice.elementAt?_of_outside outside, Option.getD_none]
  case composed =>
    intro step further forward forward' small
    have product := Slice.toInt_mul_of_le forward forward' small
    have positive : 0 < (step * further).toInt := product ▸ Int.mul_pos forward forward'
    have inner : outcome (slice source none none (some step)) = .ok (.array _) :=
      outcome_slice returned none none (Slice.ne_zero_of_pos forward)
    have twice : outcome (slice (slice source none none (some step)) none none (some further)) =
        .ok (.array _) :=
      outcome_slice inner none none (Slice.ne_zero_of_pos forward')
    have once : outcome (slice source none none (some (step * further))) =
        .ok (.array (Slice.select (Slice.select elements none none step) none none further)) := by
      rw [Slice.select_every_every fits forward forward' small]
      exact outcome_slice returned none none (Slice.ne_zero_of_pos positive)
    exact ⟨_, twice, once⟩

end

theorem index_slice_coherent_extreme :
    let outcome (expression : Expr) :=
      (expression.evaluate Json.plainEnvironment (.array [.null, .boolean true, .ofNat 7])).outcome
    outcome (index current Int64.minValue) = .ok .null ∧
      outcome (index current (-3)) =
        outcome (index (slice current none none (some (-1))) 2) ∧
      ∃ sliced,
        outcome (slice (slice current none none (some 2)) none none (some 0x2000000000000000)) =
          .ok (.array sliced) ∧
        outcome (slice current none none (some 0x4000000000000000)) = .ok (.array sliced) := by
  have fits : [Json.null, .boolean true, .ofNat 7].length < 0x8000000000000000 := by decide
  have returned : (current.evaluate Json.plainEnvironment
      (.array [.null, .boolean true, .ofNat 7])).outcome =
        .ok (.array [.null, .boolean true, .ofNat 7]) := rfl
  obtain ⟨-, mirrored, found, composed⟩ := index_slice_coherent returned fits
  exact ⟨(found Int64.minValue).2 (by decide), (mirrored (-3)).2,
    composed 2 0x2000000000000000 (by decide) (by decide) (by decide)⟩

end Expr

end DocQuery
