import DocQuery.Eval
import DocQuery.Proofs.Expr.Parts
import DocQuery.Proofs.Run

/-! Whether evaluation leaves a projection open, which the form of an expression decides.

The mark that evaluation passes along with a value is therefore the same on every run, and what is
marked is null or a new array.
-/

set_option autoImplicit false

namespace DocQuery

variable {V : Type}

/-- The mark is as said, and a marked value is null or an array made by the constructor. -/
structure Evaluated.Marked (environment : Environment V) (mark : Bool) (result : Evaluated V) :
    Prop where
  projecting : result.projecting = mark
  value : mark = true →
    result.value = environment.null ∨ ∃ elements, result.value = environment.array elements

namespace Expr

/-- A projection, a filter, or a step from or to one that leaves a projection open. -/
def isProjecting : Expr → Bool
  | .listProjection _ _ | .objectProjection _ _ | .flattenProjection _ _ | .filter _ _ => true
  | .sub left right => left.isProjecting || right.isProjecting
  | _ => false
termination_by structural expression => expression

variable (environment : Environment V)

theorem marked_plain (value : V) : (Evaluated.plain value).Marked environment false :=
  ⟨rfl, nofun⟩

theorem marked_null : (Evaluated.projected environment.null).Marked environment true :=
  ⟨rfl, fun _ => .inl rfl⟩

theorem returns_project (body : V → Run V V) (elements : List V) :
    (environment.project body elements).Returns fun value =>
      ∃ results, value = environment.array results :=
  .last fun _ => .pure ⟨_, rfl⟩

theorem returns_select (predicate : V → Run V V) (elements : List V) :
    (environment.select predicate elements).Returns fun value =>
      ∃ results, value = environment.array results :=
  .last fun _ => .pure ⟨_, rfl⟩

theorem marked_array {value : V} (isArray : ∃ elements, value = environment.array elements) :
    (Evaluated.projected value).Marked environment true :=
  ⟨rfl, fun _ => .inr isArray⟩

/-- The form decides the mark, and a marked value is null or a new array. -/
theorem returns_marked (expression : Expr) (focus : V) :
    (expression.run environment focus).Returns
      (Evaluated.Marked environment expression.isProjecting) := by
  induction expression using childInduction generalizing focus with
  | step expression ih =>
    cases expression with
    | current | identity | literal value | reference inner => exact .pure (marked_plain _ _)
    | field source name | index source position | flattenList source | not operand =>
      exact .last fun _ => .pure (marked_plain _ _)
    | slice source start stop step =>
      simp only [run]
      split
      · exact .fail _
      · exact .last fun _ => .pure (marked_plain _ _)
    | pipe left right | comparison operator left right =>
      exact .last fun _ => .last fun _ => .pure (marked_plain _ _)
    | call name arguments => exact .last fun _ => .last fun _ => .pure (marked_plain _ _)
    | sub left right =>
      have leftMarked := ih left (by simp [children]) focus
      have rightMarked := ih right (by simp [children])
      simp only [run]
      refine leftMarked.bind fun input marked => ?_
      simp only [isProjecting]
      cases open_ : left.isProjecting with
      | false =>
        have closed : input.projecting = false := marked.projecting.trans open_
        simpa [closed] using rightMarked input.value
      | true =>
        rw [open_] at marked
        simp only [marked.projecting, Bool.not_true, Bool.false_eq_true, if_false, Bool.true_or]
        split
        · -- The early return hands on a failed projection, which stays open.
          exact .pure marked
        · exact (returns_project environment _ _).bind fun _ isArray =>
            .pure (marked_array environment isArray)
    | listProjection source body | objectProjection source body =>
      refine .last fun input => ?_
      split
      · exact .pure (marked_null environment)
      · exact (returns_project environment _ _).bind fun _ isArray =>
          .pure (marked_array environment isArray)
    | flattenProjection source body =>
      exact .last fun _ => (returns_project environment _ _).bind fun _ isArray =>
        .pure (marked_array environment isArray)
    | filter source predicate =>
      refine .last fun input => ?_
      split
      · exact .pure (marked_null environment)
      · exact (returns_select environment _ _).bind fun _ isArray =>
          .pure (marked_array environment isArray)
    | multiSelectList items | multiSelectHash entries =>
      simp only [run]
      split
      · exact .pure (marked_plain _ _)
      · exact .last fun _ => .pure (marked_plain _ _)
    | and left right | or left right =>
      refine .last fun value => ?_
      split
      · exact .pure (marked_plain _ _)
      · exact .last fun _ => .pure (marked_plain _ _)

/-- A run is the evaluation of its value, marked as the form says. -/
theorem run_eq_map (expression : Expr) (focus : V) :
    expression.run environment focus =
      (fun value => ⟨value, expression.isProjecting⟩) <$>
        expression.evaluate environment focus := by
  simp only [evaluate, Run.value, Functor.map_map]
  apply Eq.symm
  apply Run.map_eq_self
  intro result success
  exact congrArg (Evaluated.mk result.value)
    (returns_marked environment expression focus result success).projecting.symm

theorem evaluate_of_isProjecting {expression : Expr} (projecting : expression.isProjecting = true)
    (focus : V) :
    (expression.evaluate environment focus).Returns fun value =>
      value = environment.null ∨ ∃ elements, value = environment.array elements := by
  have marked := returns_marked environment expression focus
  rw [run_eq_map] at marked
  intro value success
  have returned := marked ⟨value, expression.isProjecting⟩ (by rw [Run.outcome_map, success]; rfl)
  exact returned.value projecting

end Expr

end DocQuery
