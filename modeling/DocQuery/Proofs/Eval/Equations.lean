import DocQuery.Proofs.Eval.Projecting

/-! What an expression evaluates to, in terms of what its parts evaluate to.

One equation for each form. They do not mention the mark of a projection, since the form of the
left side decides what a step does.
-/

set_option autoImplicit false

namespace DocQuery

variable {V : Type}

namespace Run

theorem value_bind {α : Type} (run : Run V α) (next : α → Run V (Evaluated V)) :
    (run >>= next).value = run >>= fun input => (next input).value :=
  map_bind ..

theorem value_bind_pure {α : Type} (run : Run V α) (mark : α → Evaluated V) :
    (run >>= fun result => pure (mark result)).value =
      (fun result => (mark result).value) <$> run := by
  rw [value_bind, ← bind_pure_comp]
  rfl

theorem value_bind_congr {α : Type} {run : Run V α} {next : α → Run V (Evaluated V)}
    {continuation : α → Run V V} (same : ∀ input, (next input).value = continuation input) :
    (run >>= next).value = run >>= continuation := by
  rw [value_bind]
  exact congrArg (run >>= ·) (funext same)

theorem value_bind_projected (run : Run V V) :
    (run >>= fun result => pure (Evaluated.projected result)).value = run :=
  (value_bind_pure run Evaluated.projected).trans (id_map run)

theorem value_bind_plain (run : Run V V) :
    (run >>= fun result => pure (Evaluated.plain result)).value = run :=
  (value_bind_pure run Evaluated.plain).trans (id_map run)

end Run

namespace Expr

open Run (value_bind value_bind_pure value_bind_congr value_bind_projected value_bind_plain)

variable (environment : Environment V)

theorem evaluate_current (focus : V) : current.evaluate environment focus = pure focus := rfl

theorem evaluate_identity (focus : V) : identity.evaluate environment focus = pure focus := rfl

theorem evaluate_literal (value : Json) (focus : V) :
    (literal value).evaluate environment focus = pure (environment.ofJson value) := rfl

theorem evaluate_reference (expression : Expr) (focus : V) :
    (reference expression).evaluate environment focus = pure environment.null := rfl

theorem evaluate_field (source : Expr) (name : String) (focus : V) :
    (field source name).evaluate environment focus =
      (environment.field · name) <$> source.evaluate environment focus :=
  value_bind_pure ..

theorem evaluate_index (source : Expr) (position : Int64) (focus : V) :
    (index source position).evaluate environment focus =
      (environment.index · position) <$> source.evaluate environment focus :=
  value_bind_pure ..

theorem evaluate_slice (source : Expr) (start stop step : Option Int64) (focus : V) :
    (slice source start stop step).evaluate environment focus =
      if step.getD 1 = 0 then Run.fail .zeroStep
      else (environment.slice · start stop (step.getD 1)) <$>
        source.evaluate environment focus := by
  simp only [evaluate, run]
  split
  · rfl
  · exact value_bind_pure ..

theorem evaluate_flattenList (source : Expr) (focus : V) :
    (flattenList source).evaluate environment focus =
      (fun input => environment.array (environment.flattened input)) <$>
        source.evaluate environment focus :=
  value_bind_pure ..

theorem evaluate_pipe (left right : Expr) (focus : V) :
    (pipe left right).evaluate environment focus =
      left.evaluate environment focus >>= right.evaluate environment := by
  apply value_bind_congr
  intro input
  exact value_bind_plain _

-- What the mark decides on a run is decided here by the form of the left side.
theorem evaluate_sub (left right : Expr) (focus : V) :
    (sub left right).evaluate environment focus =
      left.evaluate environment focus >>= fun input =>
        if left.isProjecting then
          if environment.isArray input then
            environment.project (right.evaluate environment) (environment.elements input)
          else pure input
        else right.evaluate environment input := by
  change ((sub left right).run environment focus).value = _
  rw [run, value_bind, run_eq_map environment left, bind_map_left]
  congr 1
  funext input
  cases left.isProjecting
  · rfl
  cases environment.isArray input
  · rfl
  · exact value_bind_projected _

theorem evaluate_listProjection (source body : Expr) (focus : V) :
    (listProjection source body).evaluate environment focus =
      source.evaluate environment focus >>= fun input =>
        if environment.isArray input then
          environment.project (body.evaluate environment) (environment.elements input)
        else pure environment.null := by
  apply value_bind_congr
  intro input
  cases environment.isArray input
  · rfl
  · exact value_bind_projected _

theorem evaluate_objectProjection (source body : Expr) (focus : V) :
    (objectProjection source body).evaluate environment focus =
      source.evaluate environment focus >>= fun input =>
        if environment.isObject input then
          environment.project (body.evaluate environment) (environment.propertyValues input)
        else pure environment.null := by
  apply value_bind_congr
  intro input
  cases environment.isObject input
  · rfl
  · exact value_bind_projected _

theorem evaluate_flattenProjection (source body : Expr) (focus : V) :
    (flattenProjection source body).evaluate environment focus =
      source.evaluate environment focus >>= fun input =>
        environment.project (body.evaluate environment) (environment.flattened input) := by
  apply value_bind_congr
  intro input
  exact value_bind_projected _

theorem evaluate_filter (source predicate : Expr) (focus : V) :
    (filter source predicate).evaluate environment focus =
      source.evaluate environment focus >>= fun input =>
        if environment.isArray input then
          environment.select (predicate.evaluate environment) (environment.elements input)
        else pure environment.null := by
  apply value_bind_congr
  intro input
  cases environment.isArray input
  · rfl
  · exact value_bind_projected _

theorem evaluate_comparison (operator : Comparator) (left right : Expr) (focus : V) :
    (comparison operator left right).evaluate environment focus =
      left.evaluate environment focus >>= fun first =>
        environment.compared operator first <$> right.evaluate environment focus := by
  apply value_bind_congr
  intro first
  exact value_bind_pure ..

theorem evaluate_and (left right : Expr) (focus : V) :
    (and left right).evaluate environment focus =
      left.evaluate environment focus >>= fun value =>
        if environment.isTruthy value then right.evaluate environment focus else pure value := by
  apply value_bind_congr
  intro value
  cases environment.isTruthy value
  · rfl
  · exact value_bind_plain _

theorem evaluate_or (left right : Expr) (focus : V) :
    (or left right).evaluate environment focus =
      left.evaluate environment focus >>= fun value =>
        if environment.isTruthy value then pure value else right.evaluate environment focus := by
  apply value_bind_congr
  intro value
  cases environment.isTruthy value
  · exact value_bind_plain _
  · rfl

theorem evaluate_not (operand : Expr) (focus : V) :
    (not operand).evaluate environment focus =
      (fun value => environment.boolean (!environment.isTruthy value)) <$>
        operand.evaluate environment focus :=
  value_bind_pure ..

theorem runAll_eq_mapM (items : List Expr) (focus : V) :
    runAll environment items focus = items.mapM (·.evaluate environment focus) := by
  induction items with
  | nil => rfl
  | cons item rest ih =>
    rw [List.mapM_cons, ← ih]
    rfl

theorem runEntries_eq_mapM (entries : List (String × Expr)) (focus : V) :
    runEntries environment entries focus =
      entries.mapM fun entry => (entry.1, ·) <$> entry.2.evaluate environment focus := by
  induction entries with
  | nil => rfl
  | cons entry rest ih =>
    rw [List.mapM_cons, ← ih, bind_map_left]
    rfl

theorem evaluate_multiSelectList (items : List Expr) (focus : V) :
    (multiSelectList items).evaluate environment focus =
      if environment.isNull focus then pure environment.null
      else environment.array <$> items.mapM (·.evaluate environment focus) := by
  change ((multiSelectList items).run environment focus).value = _
  rw [run, runAll_eq_mapM]
  cases environment.isNull focus
  · exact value_bind_pure ..
  · rfl

theorem evaluate_multiSelectHash (entries : List (String × Expr)) (focus : V) :
    (multiSelectHash entries).evaluate environment focus =
      if environment.isNull focus then pure environment.null
      else environment.object <$> entries.mapM fun entry =>
        (entry.1, ·) <$> entry.2.evaluate environment focus := by
  change ((multiSelectHash entries).run environment focus).value = _
  rw [run, runEntries_eq_mapM]
  cases environment.isNull focus
  · exact value_bind_pure ..
  · rfl

end Expr

end DocQuery
