import DocQuery.Json.Binding
import DocQuery.Library
import DocQuery.Proofs.Simulation.Calls

/-! Functions that respect a relation of values.

One registry behind two bindings is similar at every name if each of its functions is similar to
itself.
-/

set_option autoImplicit false

namespace DocQuery

variable {V W : Type} {relation : V → W → Prop} {expressions : Expr → Expr → Prop}
  {first : Environment V} {second : Environment W}

theorem Environment.similarAt_json {relation : Json → Json → Prop} {functions : Registry Json}
    {name : String} (similar : ∀ function, functions.lookup name = some function →
      Function.Similar relation expressions (Json.environment functions)
        (Json.environment functions) function function) :
    Environment.SimilarAt relation expressions (Json.environment functions)
      (Json.environment functions) name := by
  change Option.Rel _ (functions.lookup name) (functions.lookup name)
  cases found : functions.lookup name with
  | none => exact .none
  | some function => exact .some (similar function found)

namespace Action

theorem outcome_run_answer (evaluate : Nat → V → Run V V) (position : Nat) (current : V) :
    ((answer position current).run evaluate).outcome = (evaluate position current).outcome := by
  rw [answer, run, Run.outcome_bind, Run.outcome_attempt]
  cases (evaluate position current).outcome <;> rfl

end Action

namespace Routine

theorem valueAt_related (binding : Binding.Similar relation first.toBinding second.toBinding)
    {arguments : List (Argument V)} {arguments' : List (Argument W)}
    (related : List.Forall₂ (Argument.Related relation expressions) arguments arguments')
    (position : Nat) :
    relation (valueAt first.toBinding arguments position)
      (valueAt second.toBinding arguments' position) := by
  have found := forall₂_getElem? related position
  unfold valueAt
  generalize arguments[position]? = argument?, arguments'[position]? = argument'? at found ⊢
  cases found with
  | none => exact binding.null
  | some pair =>
    cases pair with
    | value given => exact given
    | expression _ => exact binding.null

/-- What `apply` gives depends on its expression as far as this is evaluated. -/
theorem similar_apply (binding : Binding.Similar relation first.toBinding second.toBinding)
    (name : String) (signature : Signature) :
    Function.Similar relation expressions first second
      (Declaration.function ⟨name, signature, .apply⟩)
      (Declaration.function ⟨name, signature, .apply⟩) where
  signature := rfl
  body arguments arguments' related answers := by
    change Agree relation
      ((evaluated name arguments 0 _).run (first.answer arguments)).outcome
      ((evaluated name arguments' 0 _).run (second.answer arguments')).outcome
    unfold evaluated
    rw [related.length_eq]
    split
    · rw [Action.outcome_run_answer, Action.outcome_run_answer]
      exact answers 0 _ _ (valueAt_related binding related 1)
    · exact .error _

end Routine

namespace Json

def applyOnly : Registry Json :=
  .ofList [Declaration.function ⟨"apply", .exact [.expression, .any], .apply⟩]

theorem similar_applyOnly {relation : Json → Json → Prop}
    (similar : Binding.Similar relation binding binding) {name : String}
    {function : Function Json} (found : applyOnly.lookup name = some function) :
    Function.Similar relation expressions (environment applyOnly) (environment applyOnly)
      function function := by
  have only := List.mem_of_find?_eq_some found
  cases List.mem_singleton.1 only
  exact Routine.similar_apply similar "apply" _

end Json

end DocQuery
