import DocQuery.Proofs.Binding.Symmetry
import DocQuery.Proofs.Comparison
import DocQuery.Proofs.Json.Equality

/-! Comparisons read from right to left.

The mirror image of an operator says of two values in one order what the operator says of them in
the other, since equality is symmetric and the order of two values is reversed with them.
-/

set_option autoImplicit false

namespace DocQuery

namespace Binding

variable {V : Type} {binding : Binding V} {first second : V}

-- The kind of the first value decides whether there is an order, unless the kinds differ.
theorem order?_swap
    (swapped : binding.compare? second first = (binding.compare? first second).map Ordering.swap) :
    binding.order? second first = (binding.order? first second).map Ordering.swap := by
  simp only [order?, swapped]
  by_cases kinds : binding.kindOf first = binding.kindOf second
  · rw [kinds]
    split
    · rfl
    · rfl
  · rw [if_neg fun both => kinds both.1.symm, if_neg fun both => kinds both.1]
    rfl

theorem compared_mirror (symmetric : binding.equals second first = binding.equals first second)
    (swapped : binding.compare? second first = (binding.compare? first second).map Ordering.swap)
    (operator : Comparator) :
    binding.compared operator.mirror second first = binding.compared operator first second := by
  rw [compared, symmetric, order?_swap swapped, Comparator.verdict?_mirror]
  rfl

end Binding

namespace Json

theorem order?_eq_none_iff (x y : Json) :
    binding.order? x y = none ↔ ¬ (x.kind = .number ∧ y.kind = .number) := by
  cases x using shapes with
  | number first => cases y using shapes with
    | number second =>
      have order : binding.order? (number first) (number second) =
          first.toBinary64.compare? second.toBinary64 := rfl
      rw [order, Number.compare?_toBinary64]
      exact iff_of_false nofun (not_not_intro ⟨rfl, rfl⟩)
    | _ => exact iff_of_true rfl nofun
  | _ => exact iff_of_true (by cases y using shapes <;> rfl) nofun

theorem compared_mirror (operator : Comparator) (x y : Json) :
    binding.compared operator.mirror y x = binding.compared operator x y := by
  apply Binding.compared_mirror
  · exact equalBy_comm Number.sameValue_comm y x
  · exact accessors.compare?_swap x y

theorem compared_eq_null_iff (operator : Comparator) (x y : Json) :
    binding.compared operator x y = null ↔
      operator ∈ Comparator.orderings ∧ ¬ (x.kind = .number ∧ y.kind = .number) := by
  rw [← order?_eq_none_iff, ← Comparator.verdict?_eq_none_iff operator (binding.equals x y),
    Binding.compared]
  cases operator.verdict? (binding.equals x y) (binding.order? x y) with
  | none => exact iff_of_true rfl rfl
  | some verdict =>
    constructor
    · intro same
      cases same
    · intro missing
      cases missing

theorem compared_mem (operator : Comparator) (x y : Json) :
    binding.compared operator x y ∈ [boolean true, boolean false, null] := by
  rw [Binding.compared]
  cases operator.verdict? (binding.equals x y) (binding.order? x y) with
  | none => simp [binding, constructors]
  | some verdict => cases verdict <;> simp [binding, constructors]

end Json

namespace Expr

open Json (environment)

/-- A comparison of two values is the mirrored comparison of the same values in the other order. It
is null for operators that ask for an order and values that are not both numbers. -/
theorem comparison_mirrored {functions : Registry Json} {focus first second : Json}
    {left right : Expr}
    (leftValue : (left.evaluate (environment functions) focus).outcome = .ok first)
    (rightValue : (right.evaluate (environment functions) focus).outcome = .ok second)
    (operator : Comparator) :
    ∃ value ∈ [Json.boolean true, .boolean false, .null],
      ((comparison operator left right).evaluate (environment functions) focus).outcome =
        .ok value ∧
      ((comparison operator.mirror right left).evaluate (environment functions) focus).outcome =
        .ok value ∧
      (value = .null ↔ operator ∈ Comparator.orderings ∧
        ¬ (first.kind = .number ∧ second.kind = .number)) := by
  refine ⟨Json.binding.compared operator first second, Json.compared_mem operator first second,
    outcome_comparison leftValue rightValue operator, ?_,
    Json.compared_eq_null_iff operator first second⟩
  rw [outcome_comparison rightValue leftValue]
  exact congrArg Except.ok (Json.compared_mirror operator first second)

theorem comparison_mirrored_objects :
    let first := Json.ofMembers [("a", .ofNat 1), ("b", .array [.null])]
    let second := Json.ofMembers [("b", .array [.null]), ("a", .ofNat 1)]
    let outcome (expression : Expr) := (expression.evaluate Json.plainEnvironment first).outcome
    outcome (comparison .equal current (literal second)) =
        outcome (comparison .equal (literal second) current) ∧
      outcome (comparison .lessEqual current (literal second)) = .ok .null ∧
      outcome (comparison .greaterEqual (literal second) current) = .ok .null := by
  intro first second outcome
  have leftValue : (current.evaluate Json.plainEnvironment first).outcome = .ok first := rfl
  have rightValue : ((literal second).evaluate Json.plainEnvironment first).outcome =
      .ok second := rfl
  obtain ⟨_, -, forth, back, -⟩ := comparison_mirrored leftValue rightValue .equal
  obtain ⟨value, -, forth', back', null⟩ := comparison_mirrored leftValue rightValue .lessEqual
  obtain rfl : value = .null := null.2 ⟨by decide, by decide⟩
  exact ⟨forth.trans back.symm, forth', back'⟩

end Expr

end DocQuery
