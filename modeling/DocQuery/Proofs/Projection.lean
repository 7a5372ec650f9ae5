import DocQuery.Json.Binding
import DocQuery.Proofs.Eval.Equations

/-! Projections and the steps that continue them.

The form of an expression tells whether it leaves a projection open. A step is therefore one of two
forms that know nothing of open projections: a list projection if its left side leaves one open, and
a pipe otherwise.
-/

set_option autoImplicit false

namespace DocQuery.Expr

variable {V : Type} (environment : Environment V)

theorem evaluate_sub_of_not_isProjecting {left : Expr} (closed : left.isProjecting = false)
    (right : Expr) (focus : V) :
    (sub left right).evaluate environment focus = (pipe left right).evaluate environment focus := by
  rw [evaluate_sub, evaluate_pipe]
  simp only [closed, Bool.false_eq_true, if_false]

/-- An open projection that holds no array holds null, which is what a list projection makes of any
value but an array. -/
theorem evaluate_sub_of_isProjecting
    (arrays : ∀ elements, environment.isArray (environment.array elements) = true)
    {left : Expr} (projecting : left.isProjecting = true) (right : Expr) (focus : V) :
    (sub left right).evaluate environment focus =
      (listProjection left right).evaluate environment focus := by
  rw [evaluate_sub, evaluate_listProjection]
  apply (evaluate_of_isProjecting environment projecting focus).bind_congr
  intro value shape
  rw [if_pos projecting]
  rcases shape with rfl | ⟨elements, rfl⟩
  · -- Nothing need be known of null: were it an array, both sides would project it.
    rfl
  · rw [if_pos (arrays elements), if_pos (arrays elements)]

theorem evaluate_sub_eq
    (arrays : ∀ elements, environment.isArray (environment.array elements) = true)
    (left right : Expr) (focus : V) :
    (sub left right).evaluate environment focus =
      if left.isProjecting then (listProjection left right).evaluate environment focus
      else (pipe left right).evaluate environment focus := by
  cases projecting : left.isProjecting with
  | false => exact evaluate_sub_of_not_isProjecting environment projecting right focus
  | true => exact evaluate_sub_of_isProjecting environment arrays projecting right focus

/-- The mark of a run is static, and a step is a list projection or a pipe, by its left side. -/
theorem projection_state
    (arrays : ∀ elements, environment.isArray (environment.array elements) = true) :
    (∀ (expression : Expr) (focus : V) (result : Evaluated V),
      (expression.run environment focus).outcome = .ok result →
        result.projecting = expression.isProjecting ∧
        (result.projecting = true → result.value = environment.null ∨
          ∃ elements, result.value = environment.array elements)) ∧
    ∀ (left right : Expr) (focus : V),
      (sub left right).evaluate environment focus =
        if left.isProjecting then (listProjection left right).evaluate environment focus
        else (pipe left right).evaluate environment focus := by
  refine ⟨?_, evaluate_sub_eq environment arrays⟩
  intro expression focus result success
  have marked := returns_marked environment expression focus result success
  exact ⟨marked.projecting, fun projecting => marked.value (marked.projecting ▸ projecting)⟩

/-- Where arrays are told by their kind, as they are by default, new arrays need only be of that
kind. -/
theorem projection_state_of_kinds (isArray : environment.isArray = environment.toAccessors.isArray)
    (kindOf_array : ∀ elements, environment.kindOf (environment.array elements) = .array) :
    (∀ (expression : Expr) (focus : V),
      (expression.run environment focus).Returns
        (Evaluated.Marked environment expression.isProjecting)) ∧
    ∀ (left right : Expr) (focus : V),
      (sub left right).evaluate environment focus =
        if left.isProjecting then (listProjection left right).evaluate environment focus
        else (pipe left right).evaluate environment focus := by
  refine ⟨returns_marked environment, evaluate_sub_eq environment fun elements => ?_⟩
  rw [isArray, Accessors.isArray, kindOf_array]
  rfl

def failedProjection : Expr :=
  sub (objectProjection current current) (field current "a")

theorem projection_state_json :
    failedProjection.isProjecting = true ∧
    (failedProjection.run Json.plainEnvironment (.array [])).outcome = .ok ⟨.null, true⟩ ∧
    (sub failedProjection current).evaluate Json.plainEnvironment (.array []) =
      (listProjection failedProjection current).evaluate Json.plainEnvironment (.array []) :=
  ⟨rfl, rfl, (projection_state Json.plainEnvironment fun _ => rfl).2 failedProjection current _⟩

end DocQuery.Expr
