import DocQuery.Proofs.Eval.Sequential
import DocQuery.Proofs.Signature
import DocQuery.Proofs.Simulation.Functions

/-! Why evaluation fails.

Nothing but a call or a slice of step zero fails, and a failure names the one that it comes from. In
particular no value of the document makes evaluation fail by itself.
-/

set_option autoImplicit false

namespace DocQuery

variable {V : Type}

namespace Expr

/-- What an error of an expression comes from, given the calls that were made. -/
inductive Cause (environment : Environment V) (expression : Expr) (calls : List (Call V)) :
    EvalError → Prop where
  | zeroStep {source : Expr} {start stop : Option Int64} :
      Within (.slice source start stop (some 0)) expression →
      Cause environment expression calls .zeroStep
  | unknownFunction {name : String} {arguments : List Expr} :
      Within (.call name arguments) expression → environment.function? name = none →
      Cause environment expression calls (.unknownFunction name)
  | invalidArity {name : String} {arguments : List Expr} {function : Function V} :
      Within (.call name arguments) expression → environment.function? name = some function →
      function.signature.admitsCount arguments.length = false →
      Cause environment expression calls
        (.invalidArity name function.signature.arityText arguments.length)
  | invalidArgument {name : String} {arguments : List Expr} {function : Function V}
      {position : Nat} {parameter : Parameter} (actual : String) :
      Within (.call name arguments) expression → environment.function? name = some function →
      position < arguments.length → function.signature.parameter? position = some parameter →
      Cause environment expression calls
        (.invalidArgument name (position + 1) parameter.text actual)
  -- The body of a function that was called returned the error.
  | body {name : String} {arguments : List Expr} {function : Function V}
      {given : List (Argument V)} {error : EvalError} :
      Within (.call name arguments) expression → environment.function? name = some function →
      ⟨name, given⟩ ∈ calls →
      ((function.body environment.toBinding given).run (environment.answer given)).outcome =
        .error error →
      Cause environment expression calls error

theorem Cause.stable {environment : Environment V} {expression : Expr} :
    Run.Stable (Cause environment expression) := by
  intro calls more error included cause
  cases cause with
  | zeroStep within => exact .zeroStep within
  | unknownFunction within unknown => exact .unknownFunction within unknown
  | invalidArity within found refused => exact .invalidArity within found refused
  | invalidArgument actual within found bound expected =>
    exact .invalidArgument actual within found bound expected
  | body within found called failed => exact .body within found (included called) failed

variable {environment : Environment V} {expression : Expr}

theorem failsBy_apply {name : String} {arguments : List Expr} {given : List (Argument V)}
    (within : Within (.call name arguments) expression)
    (length : given.length = arguments.length) :
    (environment.apply name given).FailsBy (Cause environment expression) := by
  cases found : environment.function? name with
  | none =>
    rw [Environment.apply_of_unknown found]
    exact .fail (.unknownFunction within found)
  | some function =>
    cases checked : function.signature.validate name environment.toBinding given with
    | error error =>
      rw [Environment.apply_of_rejected found checked]
      apply Run.FailsBy.fail
      rcases Signature.validate_error checked with ⟨refused, rfl⟩ | rejects
      · rw [length] at refused ⊢
        exact .invalidArity within found refused
      · obtain ⟨position, parameter, argument, present, expected, -, rfl⟩ := rejects
        rw [Nat.zero_add] at expected ⊢
        have bound : position < given.length := (List.getElem?_eq_some_iff.1 present).1
        exact .invalidArgument _ within found (length ▸ bound) expected
    | ok _ =>
      rw [Environment.apply_of_accepted found checked]
      -- The call is made known before its body runs, so a failing body has been called.
      intro error failure
      rw [Run.bind_of_ok _ rfl] at failure ⊢
      exact .body within found List.mem_cons_self failure

theorem failsBy_cause (expression : Expr) (focus : V) :
    (expression.evaluate environment focus).FailsBy (Cause environment expression) := by
  have sequential : Run.Sequential (Run.FailsBy (V := V) (Cause environment expression)) :=
    ⟨.pure, .bind Cause.stable⟩
  apply sequential_evaluate sequential expression
  · intro source start stop within
    exact .fail (.zeroStep within)
  · intro name arguments focus given within supplied _
    exact failsBy_apply within supplied.length_eq.symm

/-- Every failure has its cause in the expression. Without calls and slices of step zero there is
none, whatever the current value. -/
theorem failure_has_cause (environment : Environment V) (expression : Expr) (focus : V) :
    (∀ error, (expression.evaluate environment focus).outcome = .error error →
      Cause environment expression (expression.evaluate environment focus).calls error) ∧
    (expression.Lacks .call →
      (∀ source start stop, ¬ Within (.slice source start stop (some 0)) expression) →
      ∃ value, (expression.evaluate environment focus).outcome = .ok value) := by
  have fails : (expression.evaluate environment focus).FailsBy (Cause environment expression) :=
    failsBy_cause expression focus
  refine ⟨fails, fun uncalled nonzero => ?_⟩
  cases outcome : (expression.evaluate environment focus).outcome with
  | ok value => exact ⟨value, rfl⟩
  | error error =>
    exfalso
    cases fails error outcome with
    | zeroStep within => exact nonzero _ _ _ within
    | unknownFunction within | invalidArity within | invalidArgument _ within | body within =>
      exact uncalled _ within rfl

theorem failure_has_cause_apply :
    Cause (Json.environment Json.applyOnly)
        (call "apply" [reference (slice current none none (some 0)), current])
        [⟨"apply", [.expression (slice current none none (some 0)), .value .null]⟩] .zeroStep ∧
      ∃ value, ((field current "a").evaluate Json.plainEnvironment (.string "text")).outcome =
        .ok value := by
  constructor
  · exact (failure_has_cause (Json.environment Json.applyOnly) _ .null).1 .zeroStep rfl
  · have lacks (form : Form) (outer : Form.field ≠ form) (inner : Form.current ≠ form) :
        (field current "a").Lacks form := by
      refine lacks_iff.2 ⟨outer, ?_⟩
      intro child member
      cases List.mem_singleton.1 member
      exact lacks_iff.2 ⟨inner, nofun⟩
    apply (failure_has_cause Json.plainEnvironment _ (.string "text")).2
      (lacks .call (by decide) (by decide))
    intro source start stop within
    exact lacks .slice (by decide) (by decide) _ within rfl

end Expr

end DocQuery
