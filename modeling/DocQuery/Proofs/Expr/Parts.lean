import Mathlib.Data.List.Basic
import DocQuery.Expr.Basic

/-! Induction over the parts of an expression, and what occurs within one.

A property of expressions follows for every form at once from the same property of the children,
whether these stand alone, in a list or under keys.
-/

set_option autoImplicit false

namespace DocQuery.Expr

/-- What holds of an expression whenever it holds of its children holds of every expression. -/
@[elab_as_elim] theorem childInduction {motive : Expr → Prop}
    (step : ∀ expression : Expr, (∀ child ∈ expression.children, motive child) →
      motive expression) (expression : Expr) : motive expression := by
  induction depth : expression.depth using Nat.strongRecOn generalizing expression with
  | ind height ih =>
    apply step
    intro child member
    have lower := depth_lt_of_mem_children member
    exact ih child.depth (depth ▸ lower) child rfl

/-- An expression occurs within itself, and within those that it is a part of. -/
inductive Within : Expr → Expr → Prop where
  | self {expression : Expr} : Within expression expression
  | child {part child expression : Expr} : child ∈ expression.children → Within part child →
      Within part expression

theorem Within.of_mem {child expression : Expr} (member : child ∈ expression.children) :
    Within child expression :=
  .child member .self

theorem Within.trans {first second third : Expr} (inner : Within first second)
    (outer : Within second third) : Within first third := by
  induction outer with
  | self => exact inner
  | child member _ ih => exact .child member ih

/-- As `childInduction`, where the step may look at all that occurs within the children: a function
evaluates what a reference among its arguments refers to, which is no child of the call. -/
@[elab_as_elim] theorem partInduction {motive : Expr → Prop}
    (step : ∀ expression : Expr,
      (∀ child ∈ expression.children, ∀ part, Within part child → motive part) →
        motive expression) (expression : Expr) : motive expression := by
  -- Strengthened to all parts, the claim passes from the children to their parent.
  suffices parts : ∀ part, Within part expression → motive part from parts expression .self
  induction expression using childInduction with
  | step expression ih =>
    intro part within
    cases within with
    | self => exact step expression ih
    | child member inner => exact ih _ member part inner

def Throughout (condition : Expr → Prop) (expression : Expr) : Prop :=
  ∀ part, Within part expression → condition part

theorem throughout_iff {condition : Expr → Prop} {expression : Expr} :
    expression.Throughout condition ↔
      condition expression ∧ expression.children.Forall (Throughout condition) := by
  rw [List.forall_iff_forall_mem]
  constructor
  · intro satisfied
    exact ⟨satisfied expression .self, fun child member part within =>
      satisfied part (.child member within)⟩
  · rintro ⟨outer, inner⟩ part within
    cases within with
    | self => exact outer
    | child member deeper => exact inner _ member part deeper

def Lacks (form : Form) (expression : Expr) : Prop :=
  ∀ part, Within part expression → part.form ≠ form

theorem Lacks.self {form : Form} {expression : Expr} (lacks : expression.Lacks form) :
    expression.form ≠ form :=
  lacks expression .self

theorem lacks_iff {form : Form} {expression : Expr} :
    expression.Lacks form ↔
      expression.form ≠ form ∧ ∀ child ∈ expression.children, child.Lacks form := by
  rw [← List.forall_iff_forall_mem]
  exact throughout_iff

end DocQuery.Expr
