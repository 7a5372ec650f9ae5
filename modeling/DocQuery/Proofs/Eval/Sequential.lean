import DocQuery.Proofs.Eval.Calls

/-! Properties of runs that pass from the steps of a run to the whole.

Evaluation is a sequence of such steps, and only two kinds of step are not evaluation again: the
failure of a slice, and the application of a function. What holds of these holds of every run.
-/

set_option autoImplicit false

namespace DocQuery

variable {V α β : Type}

/-- A run has the property if its steps have it; the next step follows on success only. -/
structure Run.Sequential (good : {α : Type} → Run V α → Prop) : Prop where
  pure {α : Type} (value : α) : good (pure value : Run V α)
  bind {α β : Type} {run : Run V α} {next : α → Run V β} : good run →
    (∀ value, run.outcome = .ok value → good (next value)) → good (run >>= next)

namespace Run.Sequential

variable {good : {α : Type} → Run V α → Prop} (sequential : Run.Sequential good)

include sequential

theorem map (change : α → β) {run : Run V α} (first : good run) : good (change <$> run) := by
  rw [← bind_pure_comp]
  exact sequential.bind first fun value _ => sequential.pure (change value)

theorem mapM {items : List α} {body : α → Run V β} (each : ∀ item ∈ items, good (body item)) :
    good (items.mapM body) := by
  induction items with
  | nil => exact sequential.pure []
  | cons item rest ih =>
    rw [List.mapM_cons]
    apply sequential.bind (each item List.mem_cons_self)
    intro result _
    apply sequential.bind (ih fun other member => each other (List.mem_cons_of_mem _ member))
    intro results _
    exact sequential.pure (result :: results)

theorem project (binding : Binding V) {body : V → Run V V}
    (each : ∀ element, good (body element)) (elements : List V) :
    good (binding.project body elements) := by
  apply sequential.bind (sequential.mapM fun element _ => each element)
  intro results _
  exact sequential.pure _

theorem select (binding : Binding V) {predicate : V → Run V V}
    (each : ∀ element, good (predicate element)) (elements : List V) :
    good (binding.select predicate elements) := by
  unfold Binding.select
  apply sequential.bind
  · apply sequential.mapM
    intro element _
    apply sequential.bind (each element)
    intro verdict _
    exact sequential.pure _
  · intro marked _
    exact sequential.pure _

theorem argument {environment : Environment V} (argument : Expr) {focus : V}
    (evaluated : good (argument.evaluate environment focus)) :
    good (argument.argument environment focus) := by
  cases argument with
  | reference expression => exact sequential.pure _
  | _ => exact sequential.map Argument.value evaluated

end Run.Sequential

namespace Expr

variable {environment : Environment V} {good : {α : Type} → Run V α → Prop}

def Supplies (environment : Environment V) (focus : V) (arguments : List Expr)
    (given : List (Argument V)) : Prop :=
  List.Forall₂ (fun argument value => (argument.argument environment focus).outcome = .ok value)
    arguments given

/-- A property that passes to sequences holds of evaluation if it holds of the failure of slices
and of calls, the latter given that it holds of all that their arguments may evaluate. -/
theorem sequential_evaluate_of_calls (sequential : Run.Sequential good) (expression : Expr)
    (zeroStep : ∀ source start stop, Within (.slice source start stop (some 0)) expression →
      good (Run.fail .zeroStep : Run V V))
    (calls : ∀ name arguments focus, Within (.call name arguments) expression →
      (∀ argument ∈ arguments, ∀ part, Within part argument → ∀ input,
        good (part.evaluate environment input)) →
      good ((call name arguments).evaluate environment focus))
    (focus : V) : good (expression.evaluate environment focus) := by
  induction expression using partInduction generalizing focus with
  | step expression ih =>
    -- At any depth, since a body evaluates what a reference among its arguments refers to.
    have inner {child : Expr} (member : child ∈ expression.children) (part : Expr)
        (within : Within part child) (input : V) : good (part.evaluate environment input) := by
      apply ih child member part within
      · intro source start stop deeper
        exact zeroStep source start stop (.child member (deeper.trans within))
      · intro name arguments focus deeper
        exact calls name arguments focus (.child member (deeper.trans within))
    have part {child : Expr} (member : child ∈ expression.children) (input : V) :
        good (child.evaluate environment input) := inner member child .self input
    cases expression with
    | current =>
      rw [evaluate_current]
      exact sequential.pure focus
    | identity =>
      rw [evaluate_identity]
      exact sequential.pure focus
    | literal value =>
      rw [evaluate_literal]
      exact sequential.pure _
    | reference expression =>
      rw [evaluate_reference]
      exact sequential.pure _
    | field source name =>
      rw [evaluate_field]
      exact sequential.map _ (part (by simp [children]) focus)
    | index source position =>
      rw [evaluate_index]
      exact sequential.map _ (part (by simp [children]) focus)
    | slice source start stop step =>
      rw [evaluate_slice]
      split
      · next zero =>
        have written : step = some 0 := by
          cases step with
          | none => cases zero
          | some step => exact congrArg some zero
        subst written
        exact zeroStep source start stop .self
      · exact sequential.map _ (part (by simp [children]) focus)
    | flattenList source =>
      rw [evaluate_flattenList]
      exact sequential.map _ (part (by simp [children]) focus)
    | pipe left right =>
      rw [evaluate_pipe]
      apply sequential.bind (part (by simp [children]) focus)
      intro input _
      exact part (by simp [children]) input
    | sub left right =>
      rw [evaluate_sub]
      apply sequential.bind (part (by simp [children]) focus)
      intro input _
      split
      · split
        · exact sequential.project _ (part (by simp [children])) _
        · exact sequential.pure input
      · exact part (by simp [children]) input
    | listProjection source body =>
      rw [evaluate_listProjection]
      apply sequential.bind (part (by simp [children]) focus)
      intro input _
      split
      · exact sequential.project _ (part (by simp [children])) _
      · exact sequential.pure _
    | objectProjection source body =>
      rw [evaluate_objectProjection]
      apply sequential.bind (part (by simp [children]) focus)
      intro input _
      split
      · exact sequential.project _ (part (by simp [children])) _
      · exact sequential.pure _
    | flattenProjection source body =>
      rw [evaluate_flattenProjection]
      apply sequential.bind (part (by simp [children]) focus)
      intro input _
      exact sequential.project _ (part (by simp [children])) _
    | filter source predicate =>
      rw [evaluate_filter]
      apply sequential.bind (part (by simp [children]) focus)
      intro input _
      split
      · exact sequential.select _ (part (by simp [children])) _
      · exact sequential.pure _
    | multiSelectList items =>
      rw [evaluate_multiSelectList]
      split
      · exact sequential.pure _
      · apply sequential.map
        apply sequential.mapM
        intro item member
        exact part member focus
    | multiSelectHash entries =>
      rw [evaluate_multiSelectHash]
      split
      · exact sequential.pure _
      · apply sequential.map
        apply sequential.mapM
        intro entry member
        exact sequential.map _ (part (List.mem_map_of_mem member) focus)
    | comparison operator left right =>
      rw [evaluate_comparison]
      apply sequential.bind (part (by simp [children]) focus)
      intro first _
      exact sequential.map _ (part (by simp [children]) focus)
    | and left right =>
      rw [evaluate_and]
      apply sequential.bind (part (by simp [children]) focus)
      intro value _
      split
      · exact part (by simp [children]) focus
      · exact sequential.pure value
    | or left right =>
      rw [evaluate_or]
      apply sequential.bind (part (by simp [children]) focus)
      intro value _
      split
      · exact sequential.pure value
      · exact part (by simp [children]) focus
    | not operand =>
      rw [evaluate_not]
      exact sequential.map _ (part (by simp [children]) focus)
    | call name arguments => exact calls name arguments focus .self fun _ => inner

-- As before, where the arguments of a call have been evaluated.
theorem sequential_evaluate (sequential : Run.Sequential good) (expression : Expr)
    (zeroStep : ∀ source start stop, Within (.slice source start stop (some 0)) expression →
      good (Run.fail .zeroStep : Run V V))
    (calls : ∀ name arguments focus given, Within (.call name arguments) expression →
      Supplies environment focus arguments given →
      (∀ argument ∈ arguments, ∀ part, Within part argument → ∀ input,
        good (part.evaluate environment input)) →
      good (environment.apply name given))
    (focus : V) : good (expression.evaluate environment focus) := by
  apply sequential_evaluate_of_calls sequential expression zeroStep
  intro name arguments focus within parts
  rw [evaluate_call]
  apply sequential.bind
  · apply sequential.mapM
    intro argument member
    exact sequential.argument argument (parts argument member argument .self focus)
  · intro given success
    exact calls name arguments focus given within (Run.forall₂_of_mapM success) parts

end Expr

end DocQuery
