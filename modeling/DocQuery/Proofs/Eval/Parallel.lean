import DocQuery.Proofs.Eval.Step

/-! Evaluation in two monads side by side.

A relation between the runs of two monads that passes from the steps of a run to the whole holds of
a step of evaluation in the one and in the other, if it holds of what the step evaluates within.
-/

set_option autoImplicit false

namespace DocQuery

variable {V α β : Type} {m m' : Type → Type} [Carrier V m] [Carrier V m']

/-- Runs are related if their steps are, as long as both go on from the same values. -/
structure Carrier.Parallel (related : {α : Type} → m α → m' α → Prop) : Prop where
  pure {α : Type} (value : α) : related (Pure.pure value) (Pure.pure value)
  bind {α β : Type} {first : m α} {first' : m' α} {next : α → m β} {next' : α → m' β} :
    related first first' → (∀ value, related (next value) (next' value)) →
      related (first >>= next) (first' >>= next')
  fail {α : Type} (error : EvalError) : related (Carrier.fail error : m α) (Carrier.fail error)
  record (call : Call V) : related (Carrier.record call) (Carrier.record call)
  attempt {α : Type} {first : m α} {first' : m' α} :
    related first first' → related (Carrier.attempt first) (Carrier.attempt first')

namespace Carrier.Parallel

variable {related : {α : Type} → m α → m' α → Prop} (parallel : Parallel @related)

include parallel

theorem last {first : m α} {first' : m' α} (same : related first first') (change : α → β) :
    related (first >>= fun value => Pure.pure (change value))
      (first' >>= fun value => Pure.pure (change value)) :=
  parallel.bind same fun value => parallel.pure (change value)

theorem mapM {items : List α} {body : α → m β} {body' : α → m' β}
    (each : ∀ item ∈ items, related (body item) (body' item)) :
    related (items.mapM body) (items.mapM body') := by
  -- The monads need not be lawful, so this follows the loop, which collects results in reverse.
  suffices loop : ∀ results, related (List.mapM.loop body items results)
      (List.mapM.loop body' items results) from loop []
  induction items with
  | nil => exact fun results => parallel.pure results.reverse
  | cons item rest ih =>
    intro results
    apply parallel.bind (each item List.mem_cons_self)
    intro result
    exact ih (fun other member => each other (List.mem_cons_of_mem _ member)) (result :: results)

theorem project (binding : Binding V) {body : V → m V} {body' : V → m' V}
    (each : ∀ element, related (body element) (body' element)) (elements : List V) :
    related (Carrier.project binding body elements) (Carrier.project binding body' elements) :=
  parallel.last (parallel.mapM fun element _ => each element) _

theorem select (binding : Binding V) {predicate : V → m V} {predicate' : V → m' V}
    (each : ∀ element, related (predicate element) (predicate' element)) (elements : List V) :
    related (Carrier.select binding predicate elements)
      (Carrier.select binding predicate' elements) := by
  apply parallel.last
  apply parallel.mapM
  exact fun element _ => parallel.last (each element) _

theorem perform {evaluate : Nat → V → m V} {evaluate' : Nat → V → m' V}
    (each : ∀ position current, related (evaluate position current) (evaluate' position current))
    (action : Action V α) :
    related (Carrier.perform evaluate action) (Carrier.perform evaluate' action) := by
  induction action with
  | done value => exact parallel.pure value
  | fail error => exact parallel.fail error
  | evaluate position current next ih =>
    exact parallel.bind (parallel.attempt (each position current)) ih

section

variable {evaluate : Expr → V → m V} {evaluate' : Expr → V → m' V}

theorem argument (expression : Expr) {focus : V}
    (evaluated : related (evaluate expression focus) (evaluate' expression focus)) :
    related (Carrier.argument evaluate focus expression)
      (Carrier.argument evaluate' focus expression) := by
  cases expression with
  | reference expression => exact parallel.pure _
  | _ => exact parallel.last evaluated Argument.value

theorem answer {arguments : List Expr} (given : List (Argument V))
    (references : ∀ expression, .reference expression ∈ arguments → ∀ current,
      related (evaluate expression current) (evaluate' expression current))
    (position : Nat) (current : V) :
    related (Carrier.answer evaluate arguments given position current)
      (Carrier.answer evaluate' arguments given position current) := by
  unfold Carrier.answer
  split
  · next expression found =>
    exact references expression (List.mem_of_getElem? found) current
  · exact parallel.pure _
  · exact parallel.pure _

theorem apply (environment : Environment V) (name : String) {arguments : List Expr}
    (given : List (Argument V))
    (references : ∀ expression, .reference expression ∈ arguments → ∀ current,
      related (evaluate expression current) (evaluate' expression current)) :
    related (Carrier.apply evaluate environment name arguments given)
      (Carrier.apply evaluate' environment name arguments given) := by
  unfold Carrier.apply
  split
  · exact parallel.fail _
  · apply parallel.bind (parallel.record _)
    intro _
    exact parallel.perform (parallel.answer given references) _

end

/-- Steps are related if all that they may evaluate is: what occurs within the children, since a
body evaluates what a reference among its arguments refers to. -/
theorem step (environment : Environment V) {run : Expr → V → m (Evaluated V)}
    {run' : Expr → V → m' (Evaluated V)} (expression : Expr)
    (inner : ∀ child ∈ expression.children, ∀ part, part.Within child → ∀ current,
      related (run part current) (run' part current))
    (focus : V) :
    related (expression.step environment run focus) (expression.step environment run' focus) := by
  have within (part : Expr) (inside : ∃ child ∈ expression.children, part.Within child)
      (current : V) : related (run part current >>= fun result => Pure.pure result.value)
        (run' part current >>= fun result => Pure.pure result.value) := by
    obtain ⟨child, member, within⟩ := inside
    exact parallel.last (inner child member part within current) _
  have part {child : Expr} (member : child ∈ expression.children) :=
    within child ⟨child, member, .self⟩
  cases expression with
  | current | identity | literal value | reference expression => exact parallel.pure _
  | field source name | index source position | flattenList source | not operand =>
    exact parallel.last (part (by simp [Expr.children]) focus) _
  | slice source start stop step =>
    simp only [Expr.step]
    split
    · exact parallel.fail _
    · exact parallel.last (part (by simp [Expr.children]) focus) _
  | pipe left right =>
    apply parallel.bind (part (by simp [Expr.children]) focus)
    intro input
    exact parallel.last (part (by simp [Expr.children]) input) _
  | sub left right =>
    apply parallel.bind (inner left (by simp [Expr.children]) left .self focus)
    intro input
    split
    · exact inner right (by simp [Expr.children]) right .self input.value
    split
    · exact parallel.pure input
    · exact parallel.last (parallel.project _ (part (by simp [Expr.children])) _) _
  | listProjection source body | objectProjection source body =>
    apply parallel.bind (part (by simp [Expr.children]) focus)
    intro input
    split
    · exact parallel.pure _
    · exact parallel.last (parallel.project _ (part (by simp [Expr.children])) _) _
  | flattenProjection source body =>
    apply parallel.bind (part (by simp [Expr.children]) focus)
    intro input
    exact parallel.last (parallel.project _ (part (by simp [Expr.children])) _) _
  | multiSelectList items =>
    simp only [Expr.step]
    split
    · exact parallel.pure _
    · exact parallel.last (parallel.mapM fun item member => part member focus) _
  | multiSelectHash entries =>
    simp only [Expr.step]
    split
    · exact parallel.pure _
    · apply parallel.last
      apply parallel.mapM
      intro entry member
      exact parallel.last (part (List.mem_map_of_mem member) focus) _
  | filter source predicate =>
    apply parallel.bind (part (by simp [Expr.children]) focus)
    intro input
    split
    · exact parallel.pure _
    · exact parallel.last (parallel.select _ (part (by simp [Expr.children])) _) _
  | comparison operator left right =>
    apply parallel.bind (part (by simp [Expr.children]) focus)
    intro first
    exact parallel.last (part (by simp [Expr.children]) focus) _
  | and left right | or left right =>
    apply parallel.bind (part (by simp [Expr.children]) focus)
    intro value
    split
    · exact parallel.pure _
    · exact parallel.last (part (by simp [Expr.children]) focus) _
  | call name arguments =>
    apply parallel.bind
    · apply parallel.mapM
      intro argument member
      exact parallel.argument argument (part member focus)
    · intro given
      refine parallel.last (parallel.apply environment name given ?_) Evaluated.plain
      intro expression member current
      exact within expression ⟨_, member, .of_mem List.mem_cons_self⟩ current

end Carrier.Parallel

end DocQuery
