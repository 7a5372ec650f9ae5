import DocQuery.Json.Binding
import DocQuery.Proofs.Json.Structure
import DocQuery.Proofs.Projection

/-! A step after a projection, and the same step in the body of the projection.

The step is taken in a second round over the results of the first, after the null results have been
dropped. It may as well be taken at once, if it makes null of null. Only the error that is met first
may be another one.
-/

set_option autoImplicit false

namespace DocQuery

variable {V : Type}

/-- A new array is an array of the elements that it was made of, and null is no array. -/
structure Binding.KeepsArrays (binding : Binding V) : Prop where
  isArray_array (elements : List V) : binding.isArray (binding.array elements) = true
  elements_array (elements : List V) : binding.elements (binding.array elements) = elements
  isArray_null : binding.isArray binding.null = false

/-- Arrays and null are told by their kinds, as they are by default, and new ones are of these
kinds. -/
structure Binding.TellsKinds (binding : Binding V) : Prop where
  isArray : binding.isArray = binding.toAccessors.isArray
  isNull : binding.isNull = binding.toAccessors.isNull
  kindOf_array (elements : List V) : binding.kindOf (binding.array elements) = .array
  elements_array (elements : List V) : binding.elements (binding.array elements) = elements
  kindOf_null : binding.kindOf binding.null = .null

namespace Binding.TellsKinds

variable {binding : Binding V} (kinds : binding.TellsKinds)

include kinds

theorem isArray_iff {value : V} : binding.isArray value = true ↔ binding.kindOf value = .array := by
  rw [kinds.isArray, Accessors.isArray, beq_iff_eq]

theorem isNull_iff {value : V} : binding.isNull value = true ↔ binding.kindOf value = .null := by
  rw [kinds.isNull, Accessors.isNull, beq_iff_eq]

theorem keepsArrays : binding.KeepsArrays where
  isArray_array elements := kinds.isArray_iff.2 (kinds.kindOf_array elements)
  elements_array := kinds.elements_array
  isArray_null := by
    rw [kinds.isArray, Accessors.isArray, kinds.kindOf_null]
    rfl

end Binding.TellsKinds

theorem Json.tellsKinds : Json.binding.TellsKinds where
  isArray := rfl
  isNull := rfl
  kindOf_array _ := rfl
  elements_array := Json.elements_array
  kindOf_null := rfl

theorem Json.keepsArrays : Json.binding.KeepsArrays := Json.tellsKinds.keepsArrays

/-- A round over the elements that a projection has opened, unless it has failed. -/
def Binding.round (binding : Binding V) (body : V → Run V V) : Option (List V) → Run V V
  | some elements => binding.project body elements
  | none => pure binding.null

namespace Expr

/-- Wherever the value is null, the expression evaluates to null as well. -/
def KeepsNull (environment : Environment V) (expression : Expr) : Prop :=
  ∀ value, environment.isNull value = true →
    ∃ result, (expression.evaluate environment value).outcome = .ok result ∧
      environment.isNull result = true

-- An array, an object, or an array with the arrays in it.
inductive Opening where
  | list
  | object
  | flatten

namespace Opening

def projection : Opening → Expr → Expr → Expr
  | .list => listProjection
  | .object => objectProjection
  | .flatten => flattenProjection

def elements? (binding : Binding V) : Opening → V → Option (List V)
  | .list, input => if binding.isArray input then some (binding.elements input) else none
  | .object, input => if binding.isObject input then some (binding.propertyValues input) else none
  | .flatten, input => some (binding.flattened input)

theorem isProjecting_projection (opening : Opening) (source body : Expr) :
    (opening.projection source body).isProjecting = true := by
  cases opening <;> rfl

theorem evaluate_projection (environment : Environment V) (opening : Opening)
    (source body : Expr) (focus : V) :
    (opening.projection source body).evaluate environment focus =
      source.evaluate environment focus >>= fun input =>
        environment.round (body.evaluate environment)
          (opening.elements? environment.toBinding input) := by
  cases opening with
  | list =>
    rw [projection, evaluate_listProjection]
    congr 1
    funext input
    rw [elements?]
    cases environment.isArray input <;> rfl
  | object =>
    rw [projection, evaluate_objectProjection]
    congr 1
    funext input
    rw [elements?]
    cases environment.isObject input <;> rfl
  | flatten => exact evaluate_flattenProjection environment source body focus

end Opening

end Expr

section

variable {α β γ : Type} {first : α → β → Prop} {second : β → γ → Prop}

theorem exists_forall₂_of_comp {items : List α} {results : List γ}
    (related : List.Forall₂ (fun item result => ∃ middle, first item middle ∧ second middle result)
      items results) :
    ∃ middles, List.Forall₂ first items middles ∧ List.Forall₂ second middles results := by
  induction related with
  | nil => exact ⟨[], .nil, .nil⟩
  | cons head _ ih =>
    obtain ⟨middle, before, after⟩ := head
    obtain ⟨middles, earlier, later⟩ := ih
    exact ⟨middle :: middles, .cons before earlier, .cons after later⟩

theorem forall₂_comp {items : List α} {middles : List β} {results : List γ}
    (earlier : List.Forall₂ first items middles) (later : List.Forall₂ second middles results) :
    List.Forall₂ (fun item result => ∃ middle, first item middle ∧ second middle result)
      items results := by
  induction earlier generalizing results with
  | nil => cases later; exact .nil
  | cons before _ ih =>
    cases later with
    | cons after rest => exact .cons ⟨_, before, after⟩ (ih rest)

variable {kept : β → Bool} {kept' : γ → Bool}

/-- Items that are dropped beforehand could have been dropped afterwards. -/
theorem exists_forall₂_of_filter {items : List β} {results : List γ}
    (dropped : ∀ item, kept item = false → ∃ result, second item result ∧ kept' result = false)
    (related : List.Forall₂ second (items.filter kept) results) :
    ∃ all, List.Forall₂ second items all ∧ all.filter kept' = results.filter kept' := by
  induction items generalizing results with
  | nil => exact ⟨results, related, rfl⟩
  | cons item rest ih =>
    cases keep : kept item with
    | false =>
      rw [List.filter_cons_of_neg (by simp [keep])] at related
      obtain ⟨all, relatedAll, same⟩ := ih related
      obtain ⟨result, head, drop⟩ := dropped item keep
      refine ⟨result :: all, .cons head relatedAll, ?_⟩
      rw [List.filter_cons_of_neg (by simp [drop]), same]
    | true =>
      rw [List.filter_cons_of_pos keep] at related
      cases related with | @cons _ result _ results head tail =>
      obtain ⟨all, relatedAll, same⟩ := ih tail
      refine ⟨result :: all, .cons head relatedAll, ?_⟩
      rw [List.filter_cons, List.filter_cons, same]

theorem exists_forall₂_filter {items : List β} {all : List γ}
    (dropped : ∀ item result, second item result → kept item = false → kept' result = false)
    (related : List.Forall₂ second items all) :
    ∃ results, List.Forall₂ second (items.filter kept) results ∧
      results.filter kept' = all.filter kept' := by
  induction related with
  | nil => exact ⟨[], .nil, rfl⟩
  | @cons item result items all head _ ih =>
    obtain ⟨results, relatedResults, same⟩ := ih
    cases keep : kept item with
    | false =>
      refine ⟨results, ?_, ?_⟩
      · rwa [List.filter_cons_of_neg (by simp [keep])]
      · rw [List.filter_cons_of_neg (by simp [dropped item result head keep]), same]
    | true =>
      refine ⟨result :: results, ?_, ?_⟩
      · rw [List.filter_cons_of_pos keep]
        exact .cons head relatedResults
      · rw [List.filter_cons, List.filter_cons, same]

end

namespace Binding

variable {binding : Binding V} {body next : V → Run V V} {elements : List V} {value : V}

theorem outcome_project_eq_ok_iff :
    (binding.project body elements).outcome = .ok value ↔
      ∃ results, List.Forall₂ (fun element result => (body element).outcome = .ok result)
          elements results ∧
        value = binding.array (results.filter fun result => !binding.isNull result) := by
  rw [project, Run.outcome_bind_eq_ok_iff]
  refine exists_congr fun results => and_congr Run.outcome_mapM_eq_ok_iff ?_
  rw [Run.outcome_pure, Except.ok.injEq, eq_comm]

/-- A second round over the results of a first is one round of both, if it makes null of null. -/
theorem outcome_project_project_iff
    (elements_array : ∀ elements, binding.elements (binding.array elements) = elements)
    (keepsNull : ∀ value, binding.isNull value = true →
      ∃ result, (next value).outcome = .ok result ∧ binding.isNull result = true) :
    (binding.project body elements >>= fun results =>
        binding.project next (binding.elements results)).outcome = .ok value ↔
      (binding.project (fun element => body element >>= next) elements).outcome = .ok value := by
  rw [Run.outcome_bind_eq_ok_iff, outcome_project_eq_ok_iff]
  simp only [Run.outcome_bind_eq_ok_iff]
  constructor
  · rintro ⟨array, firstRound, secondRound⟩
    obtain ⟨middles, earlier, rfl⟩ := outcome_project_eq_ok_iff.1 firstRound
    obtain ⟨results, later, rfl⟩ := outcome_project_eq_ok_iff.1 secondRound
    rw [elements_array] at later
    -- What the first round drops as null stays null in a single round, and is dropped then.
    have dropped (middle : V) (drop : (!binding.isNull middle) = false) :
        ∃ result, (next middle).outcome = .ok result ∧ (!binding.isNull result) = false := by
      simpa using keepsNull middle (by simpa using drop)
    obtain ⟨all, relatedAll, same⟩ := exists_forall₂_of_filter dropped later
    exact ⟨all, forall₂_comp earlier relatedAll, by rw [same]⟩
  · rintro ⟨all, related, rfl⟩
    obtain ⟨middles, earlier, later⟩ := exists_forall₂_of_comp related
    have dropped (middle result : V) (returned : (next middle).outcome = .ok result)
        (drop : (!binding.isNull middle) = false) : (!binding.isNull result) = false := by
      obtain ⟨other, success, null⟩ := keepsNull middle (by simpa using drop)
      cases returned.symm.trans success
      simpa using null
    obtain ⟨results, relatedResults, same⟩ := exists_forall₂_filter dropped later
    refine ⟨_, outcome_project_eq_ok_iff.2 ⟨middles, earlier, rfl⟩, ?_⟩
    rw [outcome_project_eq_ok_iff, elements_array]
    exact ⟨results, relatedResults, by rw [same]⟩

-- A failed projection stays null, and a step does not continue it.
theorem outcome_round_round_iff (arrays : binding.KeepsArrays)
    (keepsNull : ∀ value, binding.isNull value = true →
      ∃ result, (next value).outcome = .ok result ∧ binding.isNull result = true)
    (opened : Option (List V)) :
    (binding.round body opened >>= fun results =>
        binding.round next (Expr.Opening.list.elements? binding results)).outcome = .ok value ↔
      (binding.round (fun element => body element >>= next) opened).outcome = .ok value := by
  cases opened with
  | none =>
    simp only [round, pure_bind, Expr.Opening.elements?, arrays.isArray_null, Bool.false_eq_true,
      if_false]
  | some elements =>
    have again : (binding.project body elements).Returns fun results =>
        binding.isArray results = true := by
      intro results success
      obtain ⟨_, _, rfl⟩ := outcome_project_eq_ok_iff.1 success
      exact arrays.isArray_array _
    have continued : (binding.project body elements >>= fun results =>
        binding.round next (Expr.Opening.list.elements? binding results)) =
          binding.project body elements >>= fun results =>
            binding.project next (binding.elements results) :=
      again.bind_congr fun results isArray => by rw [Expr.Opening.elements?, if_pos isArray, round]
    rw [round, continued, round, outcome_project_project_iff arrays.elements_array keepsNull]

end Binding

namespace Expr

section

variable {environment : Environment V}

theorem evaluate_sub_projection (arrays : environment.toBinding.KeepsArrays) (opening : Opening)
    (source body right : Expr) (focus : V) :
    (sub (opening.projection source body) right).evaluate environment focus =
      source.evaluate environment focus >>= fun input =>
        environment.round (body.evaluate environment)
            (opening.elements? environment.toBinding input) >>= fun results =>
          environment.round (right.evaluate environment)
            (Opening.list.elements? environment.toBinding results) := by
  rw [evaluate_sub_of_isProjecting environment arrays.isArray_array
    (opening.isProjecting_projection source body)]
  change (Opening.list.projection _ right).evaluate environment focus = _
  rw [Opening.evaluate_projection, Opening.evaluate_projection, bind_assoc]

theorem evaluate_projection_pipe (opening : Opening) (source body right : Expr) (focus : V) :
    (opening.projection source (pipe body right)).evaluate environment focus =
      source.evaluate environment focus >>= fun input =>
        environment.round
          (fun element => body.evaluate environment element >>= right.evaluate environment)
          (opening.elements? environment.toBinding input) := by
  rw [Opening.evaluate_projection, funext (evaluate_pipe environment body right)]

end

/-- A step after a projection has the value that it has in the body of the projection, and one of
the two succeeds exactly if the other does. -/
theorem sub_projection_iff (environment : Environment V)
    (arrays : environment.toBinding.KeepsArrays) (opening : Opening) (source body : Expr)
    {right : Expr} (keepsNull : right.KeepsNull environment) (focus value : V) :
    ((sub (opening.projection source body) right).evaluate environment focus).outcome =
        .ok value ↔
      ((opening.projection source (pipe body right)).evaluate environment focus).outcome =
        .ok value := by
  rw [evaluate_sub_projection arrays, evaluate_projection_pipe, Run.outcome_bind_eq_ok_iff,
    Run.outcome_bind_eq_ok_iff]
  exact exists_congr fun input =>
    and_congr_right fun _ => Binding.outcome_round_round_iff arrays keepsNull _

/-- The same by kinds: the step has to make null of whatever is null by its kind. -/
theorem sub_projection_iff_of_kinds (environment : Environment V)
    (kinds : environment.toBinding.TellsKinds) (opening : Opening) (source body : Expr)
    {right : Expr}
    (keepsNull : ∀ value, environment.kindOf value = .null →
      ∃ result, (right.evaluate environment value).outcome = .ok result ∧
        environment.kindOf result = .null)
    (focus value : V) :
    ((sub (opening.projection source body) right).evaluate environment focus).outcome =
        .ok value ↔
      ((opening.projection source (pipe body right)).evaluate environment focus).outcome =
        .ok value := by
  rw [evaluate_sub_projection kinds.keepsArrays, evaluate_projection_pipe,
    Run.outcome_bind_eq_ok_iff, Run.outcome_bind_eq_ok_iff]
  refine exists_congr fun input => and_congr_right fun _ =>
    Binding.outcome_round_round_iff kinds.keepsArrays ?_ _
  intro value null
  obtain ⟨result, returned, stays⟩ := keepsNull value (kinds.isNull_iff.1 null)
  exact ⟨result, returned, kinds.isNull_iff.2 stays⟩

-- Both steps find something in the first member. The second is null after the first step, and the
-- third after the second step.
def nestedDocument : Json :=
  .ofMembers [("x", .ofMembers [("b", .ofMembers [("a", .ofNat 1)])]),
    ("y", .ofMembers [("b", .null)]), ("z", .ofMembers [("b", .ofMembers [("c", .ofNat 2)])])]

theorem keepsNull_field (name : String) : (field current name).KeepsNull Json.plainEnvironment := by
  intro value null
  cases value using Json.shapes with
  | null => exact ⟨.null, rfl, rfl⟩
  | _ => cases null

theorem sub_projection_iff_object :
    ((sub (objectProjection current (field current "b")) (field current "a")).evaluate
        Json.plainEnvironment nestedDocument).outcome = .ok (.array [.ofNat 1]) ∧
      ((objectProjection current (pipe (field current "b") (field current "a"))).evaluate
        Json.plainEnvironment nestedDocument).outcome = .ok (.array [.ofNat 1]) := by
  have stepwise : ((sub (objectProjection current (field current "b")) (field current "a")).evaluate
      Json.plainEnvironment nestedDocument).outcome = .ok (.array [.ofNat 1]) := rfl
  exact ⟨stepwise, (sub_projection_iff Json.plainEnvironment Json.keepsArrays .object current
    (field current "b") (keepsNull_field "a") _ _).1 stepwise⟩

end Expr

end DocQuery
