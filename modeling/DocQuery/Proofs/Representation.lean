import DocQuery.Proofs.Json.Binding
import DocQuery.Proofs.Simulation.Evaluation
import DocQuery.Proofs.Simulation.Functions

/-! A query does not depend on how the values of its document are represented.

If two bindings cannot be told apart by their operations, nor by the functions that they offer, then
no query can tell them apart.
-/

set_option autoImplicit false

namespace DocQuery

variable {V W : Type}

/-- Every operation that a query may use respects a relation of the values of two bindings. -/
structure Binding.Respects (relation : V → W → Prop) (first : Binding V) (second : Binding W) :
    Prop extends Binding.Similar relation first second where
  propertyValues {value : V} {value' : W} : relation value value' →
    List.Forall₂ relation (first.propertyValues value) (second.propertyValues value')
  ofJson (constant : Json) : relation (first.ofJson constant) (second.ofJson constant)

namespace Expr

variable {relation : V → W → Prop} {first : Environment V} {second : Environment W}

theorem representation_independent
    (binding : Binding.Respects relation first.toBinding second.toBinding)
    (functions : ∀ name, Environment.SimilarAt relation Eq first second name)
    (expression : Expr) {value : V} {value' : W} (related : relation value value') :
    Agree relation (expression.evaluate first value).outcome
      (expression.evaluate second value').outcome := by
  have layered : Layered Eq Eq := layered_eq fun _ => rfl
  have constants (constant other : Json) (same : constant = other) :
      relation (first.ofJson constant) (second.ofJson other) := by
    subst other
    exact binding.ofJson constant
  have simulated := layered.simulated binding.toSimilar constants (rfl : expression = expression)
    (.inr binding.propertyValues) fun name _ _ => functions name
  exact simulated value value' related

end Expr

theorem Json.respects_alike : Binding.Respects (Alike true) binding binding where
  toSimilar := similar_binding
  propertyValues := Alike.propertyValues
  ofJson := Alike.refl

/-- Documents that differ in the sign of a zero stand for one another. -/
theorem Expr.representation_independent_zero :
    ((call "apply" [reference current, index current 0]).evaluate (Json.environment Json.applyOnly)
        (.array [.zero true])).outcome = .ok (.zero true) ∧
    Agree (Json.Alike true)
      ((call "apply" [reference current, index current 0]).evaluate
        (Json.environment Json.applyOnly) (.array [.zero true])).outcome
      ((call "apply" [reference current, index current 0]).evaluate
        (Json.environment Json.applyOnly) (.array [.zero false])).outcome := by
  constructor
  · rfl
  · apply representation_independent Json.respects_alike
    · intro name
      exact Environment.similarAt_json fun _ => Json.similar_applyOnly Json.similar_binding
    · exact .array (.cons (Json.alike_zero true false) .nil)

end DocQuery
