import DocQuery.Proofs.Json.Binding
import DocQuery.Proofs.Simulation.Functions
import DocQuery.Proofs.Simulation.Evaluation

/-! The order of members does not show, unless an object projection lists their values.

Documents that are equal as written differ in that order and in the signs of zeros. A query without
object projections, and without functions that look at them otherwise, gives equal results on both.
-/

set_option autoImplicit false

namespace DocQuery.Expr

/-- Queries without object projections take alike documents to alike results, as long as the
functions that they call do. -/
theorem evaluate_alike {functions : Registry Json} {expression : Expr}
    (lacks : expression.Lacks .objectProjection)
    (respected : ∀ name function, functions.lookup name = some function →
      Function.Similar (Json.Alike false) Eq (Json.environment functions)
        (Json.environment functions) function function)
    {document document' : Json} (alike : Json.Alike false document document') :
    Agree (Json.Alike false)
      (expression.evaluate (Json.environment functions) document).outcome
      (expression.evaluate (Json.environment functions) document').outcome := by
  have layered : Layered Eq Eq := layered_eq fun _ => rfl
  have constants (value value' : Json) (same : value = value') : Json.Alike false value value' :=
    same ▸ .refl value
  have simulated : expression.Simulated (Json.Alike false) (Json.environment functions)
      (Json.environment functions) expression :=
    layered.simulated Json.similar_binding constants rfl (.inl lacks)
      fun name _ _ => Environment.similarAt_json (respected name)
  exact simulated document document' alike

/-- Without functions and object projections, queries take equal documents to equal results. -/
theorem evaluate_sameForm {expression : Expr} (lacks : expression.Lacks .objectProjection)
    {document document' : Json} (same : document.sameForm document' = true) :
    Agree (fun value value' => value.sameForm value' = true)
      (expression.evaluate Json.plainEnvironment document).outcome
      (expression.evaluate Json.plainEnvironment document').outcome := by
  have alike : Json.Alike false document document' := Json.descends_sameForm.alike same
  have results : Agree (Json.Alike false)
      (expression.evaluate Json.plainEnvironment document).outcome
      (expression.evaluate Json.plainEnvironment document').outcome := by
    refine evaluate_alike lacks ?_ alike
    intro name function found
    cases found
  exact results.mono fun _ _ related => related.equalBy id

def zeroAndText (reversed : Bool) : Json :=
  .ofMembers (if reversed then [("b", .string "text"), ("a", .zero true)]
    else [("a", .zero false), ("b", .string "text")])

/-- An object projection does show the order. -/
example (reversed : Bool) :
    ((objectProjection current current).evaluate Json.plainEnvironment
      (zeroAndText reversed)).outcome =
        .ok (.array (if reversed then [.string "text", .zero true]
          else [.zero false, .string "text"])) := by
  cases reversed <;> rfl

def listedMembers : Expr := multiSelectList [field current "b", field current "a"]

theorem evaluate_sameForm_members :
    listedMembers.Lacks .objectProjection ∧
      (zeroAndText false).sameForm (zeroAndText true) = true ∧
      Agree (fun value value' => value.sameForm value' = true)
        (listedMembers.evaluate Json.plainEnvironment (zeroAndText false)).outcome
        (listedMembers.evaluate Json.plainEnvironment (zeroAndText true)).outcome := by
  have lacksField (name : String) : (field current name).Lacks .objectProjection := by
    refine lacks_iff.2 ⟨nofun, ?_⟩
    intro child member
    cases List.mem_singleton.1 member
    exact lacks_iff.2 ⟨by decide, nofun⟩
  have lacks : listedMembers.Lacks .objectProjection := by
    refine lacks_iff.2 ⟨by decide, ?_⟩
    intro child member
    simp only [listedMembers, children, List.mem_cons, List.not_mem_nil, or_false] at member
    rcases member with rfl | rfl
    · exact lacksField "b"
    · exact lacksField "a"
  exact ⟨lacks, rfl, evaluate_sameForm lacks rfl⟩

end DocQuery.Expr
