import DocQuery.Proofs.Expr.Equality
import DocQuery.Proofs.Json.Binding
import DocQuery.Proofs.Simulation.Functions

/-! When equal expressions may stand for one another.

Equality does not see the order in which a literal lists its members, nor the sign of a zero. An
object projection does see the order, and a function may see both. Without these, equal expressions
have equal values on every document.
-/

set_option autoImplicit false

namespace DocQuery.Expr

/-- The functions that an expression calls tell neither alike values nor equal expressions apart,
unless by what they evaluate to. -/
def CallsRespect (ordered : Bool) (functions : Registry Json) (expression : Expr) : Prop :=
  ∀ name arguments, Within (.call name arguments) expression →
    ∀ function, functions.lookup name = some function →
      Function.Similar (Json.Alike ordered)
        (fun given given' => given.sameBy (Json.alike ordered) given' = true)
        (Json.environment functions) (Json.environment functions) function function

/-- On every document the values of two expressions are equal, or both fail alike. -/
def Interchangeable (functions : Registry Json) (first second : Expr) : Prop :=
  ∀ document, Agree (fun x y => x.sameValue y = true)
    (first.evaluate (Json.environment functions) document).outcome
    (second.evaluate (Json.environment functions) document).outcome

theorem interchangeable_of_sameBy {ordered : Bool} {functions : Registry Json}
    {first second : Expr} (same : first.sameBy (Json.alike ordered) second = true)
    (properties : ordered = true ∨ first.Lacks .objectProjection)
    (respected : first.CallsRespect ordered functions) :
    Interchangeable functions first second := by
  intro document
  have simulated : first.Simulated (Json.Alike ordered) (Json.environment functions)
      (Json.environment functions) second := by
    apply layered_sameBy.simulated Json.similar_binding (fun _ _ => Json.alike_of_alike) same
    · rcases properties with rfl | lacks
      · exact .inr Json.Alike.propertyValues
      · exact .inl lacks
    · intro name arguments within
      exact Environment.similarAt_json (respected name arguments within)
  exact (simulated document document (.refl document)).mono fun _ _ => Json.Alike.sameValue

/-- Equal expressions are interchangeable if they have no object projections, or if their literals
list members in the same order. -/
theorem interchangeable_of_same (functions : Registry Json) {first second : Expr}
    (same : first.same second = true) :
    (first.Lacks .objectProjection → first.CallsRespect false functions →
      Interchangeable functions first second) ∧
    (first.sameBy (Json.alike true) second = true → first.CallsRespect true functions →
      Interchangeable functions first second) := by
  constructor
  · intro lacks
    have unordered : first.sameBy (Json.alike false) second = true := same
    exact interchangeable_of_sameBy unordered (.inr lacks)
  · intro sameOrder
    exact interchangeable_of_sameBy sameOrder (.inl rfl)

def pairLiteral (reversed : Bool) : Expr :=
  literal (.ofMembers (if reversed then [("b", .ofNat 2), ("a", .ofNat 1)]
    else [("a", .ofNat 1), ("b", .ofNat 2)]))

def zeroValues (negative : Bool) : Expr :=
  objectProjection (literal (.ofMembers [("a", .zero negative)])) current

theorem interchangeable_of_same_literals :
    Interchangeable Json.applyOnly (call "apply" [reference current, pairLiteral false])
        (call "apply" [reference current, pairLiteral true]) ∧
      Interchangeable .empty (zeroValues false) (zeroValues true) := by
  constructor
  · apply (interchangeable_of_same Json.applyOnly rfl).1
    · have atom {part : Expr} (other : part.form ≠ .objectProjection) (whole : part.children = []) :
          part.Lacks .objectProjection :=
        lacks_iff.2 ⟨other, by simp [whole]⟩
      refine lacks_iff.2 ⟨by decide, ?_⟩
      intro child member
      simp only [children, List.mem_cons, List.not_mem_nil, or_false] at member
      rcases member with rfl | rfl
      · refine lacks_iff.2 ⟨by decide, ?_⟩
        intro inner member
        cases List.mem_singleton.1 member
        exact atom (by decide) rfl
      · exact atom (by decide) rfl
    · intro name arguments within function
      exact Json.similar_applyOnly Json.similar_binding
  · apply (interchangeable_of_same .empty rfl).2 rfl
    intro name arguments within function found
    cases found

def showing : Registry Json :=
  .ofList [Declaration.function ⟨"show", .exact [.expression], .describe⟩]

/-- Equal expressions need not be interchangeable: an object projection keeps to the order of
members, and a function may show how a literal is written. -/
theorem same_not_interchangeable :
    (objectProjection (pairLiteral false) current).same
        (objectProjection (pairLiteral true) current) = true ∧
    ¬ Interchangeable .empty (objectProjection (pairLiteral false) current)
        (objectProjection (pairLiteral true) current) ∧
    (call "show" [reference (pairLiteral false)]).same
        (call "show" [reference (pairLiteral true)]) = true ∧
    ¬ Interchangeable showing (call "show" [reference (pairLiteral false)])
        (call "show" [reference (pairLiteral true)]) := by
  refine ⟨rfl, ?_, rfl, ?_⟩
  · intro interchangeable
    cases interchangeable .null with | ok equal => cases equal
  · intro interchangeable
    cases interchangeable .null with | ok equal => cases equal

end DocQuery.Expr
