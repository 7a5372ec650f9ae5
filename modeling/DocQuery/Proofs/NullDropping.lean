import DocQuery.Json.Binding
import DocQuery.Proofs.Continuation

/-! Nulls in the arrays that projections make, and that steps from open projections make of them.

A projection drops the nulls among its results. A filter keeps those among its elements, but leaves
a projection open as well, and a step from there takes a new round, which drops them. Whether an
expression can have an array with nulls for its value is therefore a matter of its form.
-/

set_option autoImplicit false

namespace DocQuery

variable {V : Type}

/-- A new array is an array of the elements that it was made of, and what is an array or null by its
kind is recognized as such. -/
structure Binding.KnowsKinds (binding : Binding V) : Prop where
  kindOf_array (elements : List V) : binding.kindOf (binding.array elements) = .array
  elements_array (elements : List V) : binding.elements (binding.array elements) = elements
  isArray_of_kind {value : V} : binding.kindOf value = .array → binding.isArray value = true
  isNull_of_kind {value : V} : binding.kindOf value = .null → binding.isNull value = true

theorem Binding.TellsKinds.knowsKinds {binding : Binding V} (kinds : binding.TellsKinds) :
    binding.KnowsKinds where
  kindOf_array := kinds.kindOf_array
  elements_array := kinds.elements_array
  isArray_of_kind := kinds.isArray_iff.2
  isNull_of_kind := kinds.isNull_iff.2

structure Binding.IsNullFree (binding : Binding V) (value : V) : Prop where
  kind : binding.kindOf value = .array
  elements : ∀ element ∈ binding.elements value, binding.kindOf element ≠ .null

def Binding.IsProjected (binding : Binding V) (value : V) : Prop :=
  ∃ body elements, (binding.project body elements).outcome = .ok value

theorem Binding.KnowsKinds.isNullFree {binding : Binding V} (kinds : binding.KnowsKinds) {value : V}
    (projected : binding.IsProjected value) : binding.IsNullFree value := by
  obtain ⟨body, elements, success⟩ := projected
  obtain ⟨results, -, rfl⟩ := Binding.outcome_project_eq_ok_iff.1 success
  refine ⟨kinds.kindOf_array _, ?_⟩
  rw [kinds.elements_array]
  intro element member null
  have kept := (List.mem_filter.1 member).2
  rw [kinds.isNull_of_kind null] at kept
  cases kept

namespace Expr

/-- A projection, a step from whatever leaves a projection open, or a step to such an expression. -/
def dropsNulls : Expr → Bool
  | .listProjection _ _ | .objectProjection _ _ | .flattenProjection _ _ => true
  | .sub left right => left.isProjecting || right.dropsNulls
  | _ => false
termination_by structural expression => expression

variable {environment : Environment V}

theorem returns_round (body : V → Run V V) (opened : Option (List V)) :
    (environment.round body opened).Returns fun value =>
      value = environment.null ∨ environment.IsProjected value := by
  cases opened with
  | none => exact .pure (.inl rfl)
  | some elements => exact fun value success => .inr ⟨body, elements, success⟩

theorem returns_projection (opening : Opening) (source body : Expr) (focus : V) :
    ((opening.projection source body).evaluate environment focus).Returns fun value =>
      value = environment.null ∨ environment.IsProjected value := by
  rw [Opening.evaluate_projection]
  exact .last fun input => returns_round _ _

/-- An expression that drops nulls has null or the value of a round for its value, if it has one. -/
theorem returns_of_dropsNulls
    (arrays : ∀ elements, environment.isArray (environment.array elements) = true)
    {expression : Expr} (drops : expression.dropsNulls = true) (focus : V) :
    (expression.evaluate environment focus).Returns fun value =>
      value = environment.null ∨ environment.IsProjected value := by
  induction expression using childInduction generalizing focus with
  | step expression ih =>
    cases expression with
    | listProjection source body => exact returns_projection .list source body focus
    | objectProjection source body => exact returns_projection .object source body focus
    | flattenProjection source body => exact returns_projection .flatten source body focus
    | sub left right =>
      rw [evaluate_sub_eq environment arrays]
      cases open_ : left.isProjecting with
      | true => exact returns_projection .list left right focus
      | false =>
        rw [dropsNulls, open_, Bool.false_or] at drops
        rw [if_neg Bool.false_ne_true, evaluate_pipe]
        exact .last fun input => ih right (by simp [children]) drops input
    | _ => cases drops

/-- An expression that drops nulls evaluates to null or to an array without nulls, if at all. -/
theorem evaluate_of_dropsNulls (kinds : environment.toBinding.KnowsKinds) {expression : Expr}
    (drops : expression.dropsNulls = true) (focus : V) :
    (expression.evaluate environment focus).Returns fun value =>
      value = environment.null ∨ environment.IsNullFree value := by
  intro value success
  have arrays (elements : List V) := kinds.isArray_of_kind (kinds.kindOf_array elements)
  exact (returns_of_dropsNulls arrays drops focus value success).imp_right kinds.isNullFree

theorem evaluate_of_dropsNulls_of_kinds (kinds : environment.toBinding.TellsKinds)
    {expression : Expr} (drops : expression.dropsNulls = true) {focus value : V}
    (success : (expression.evaluate environment focus).outcome = .ok value) :
    value = environment.null ∨ environment.kindOf value = .array ∧
      ∀ element ∈ environment.elements value, environment.kindOf element ≠ .null := by
  refine (returns_of_dropsNulls kinds.keepsArrays.isArray_array drops focus value success).imp_right
    fun projected => ?_
  have free := kinds.knowsKinds.isNullFree projected
  exact ⟨free.kind, free.elements⟩

/-- The filter keeps the null among the elements, and the step drops the nulls that it makes. -/
theorem evaluate_of_dropsNulls_filter :
    let kept := filter current (or identity (literal (.boolean true)))
    let document := Json.array [.null, .ofMembers [("a", .ofNat 1)], .ofMembers []]
    (kept.evaluate Json.plainEnvironment document).outcome = .ok document ∧
      ((sub kept (field current "a")).evaluate Json.plainEnvironment document).outcome =
        .ok (.array [.ofNat 1]) ∧
      Json.binding.IsNullFree (.array [.ofNat 1]) := by
  intro kept document
  have stepwise : ((sub kept (field current "a")).evaluate Json.plainEnvironment document).outcome =
      .ok (.array [.ofNat 1]) := rfl
  have kinds : Json.plainEnvironment.toBinding.KnowsKinds := Json.tellsKinds.knowsKinds
  have drops : (sub kept (field current "a")).dropsNulls = true := rfl
  have free := evaluate_of_dropsNulls kinds drops document _ stepwise
  exact ⟨rfl, stepwise, free.resolve_left nofun⟩

end Expr

end DocQuery
