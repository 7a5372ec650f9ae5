import DocQuery.Json.Binding
import DocQuery.Proofs.Comparator
import DocQuery.Proofs.Eval.Equations
import DocQuery.Proofs.Json.Exact

/-! Comparisons of numbers.

Equality is exact between integers, and order goes by binary numbers. The operators fit together
unless two different integers are the same binary number: these are neither equal nor ordered.
-/

set_option autoImplicit false

namespace DocQuery

namespace Json.Number

def Holds (first second : Number) : Comparator → Prop :=
  Comparator.Holds (first.sameValue second) (first.toBinary64.compare? second.toBinary64)

theorem coherent_iff_not_conflated (first second : Number) :
    Comparator.Coherent (first.Holds second) ↔ ¬ first.Conflated second := by
  rw [← sameValue_eq_equal_iff, Holds, Binary64.equal, compare?_toBinary64]
  exact Comparator.coherent_iff _ _

-- Neither integer equals the other or is less, but each is at most and at least the other.
theorem Conflated.holds_iff {first second : Number} (conflated : first.Conflated second)
    (operator : Comparator) :
    first.Holds second operator ↔ operator ∈ [.notEqual, .lessEqual, .greaterEqual] := by
  obtain ⟨different, equal⟩ := conflated
  have order : (Binary64.ofInt _).compare? (Binary64.ofInt _) = some .eq := eq_of_beq equal
  rw [Holds, sameValue, beq_eq_false_iff_ne.2 different, toBinary64, toBinary64, order]
  exact Comparator.holds_iff_of_eq operator

end Json.Number

namespace Expr

open Json (Number environment number)

section

variable {V : Type} {environment : Environment V} {focus first second : V} {left right : Expr}

def ComparesTrue {V : Type} (environment : Environment V) (focus : V) (left right : Expr)
    (operator : Comparator) : Prop :=
  ((comparison operator left right).evaluate environment focus).outcome =
    .ok (environment.boolean true)

theorem outcome_comparison
    (leftValue : (left.evaluate environment focus).outcome = .ok first)
    (rightValue : (right.evaluate environment focus).outcome = .ok second)
    (operator : Comparator) :
    ((comparison operator left right).evaluate environment focus).outcome =
      .ok (environment.compared operator first second) := by
  rw [evaluate_comparison, Run.bind_of_ok _ leftValue]
  exact (Run.outcome_map ..).trans (by rw [rightValue]; rfl)

/-- Where true is another value than false and null, a comparison is true if its verdict is. -/
theorem comparesTrue_iff_holds (different : environment.boolean false ≠ environment.boolean true)
    (present : environment.null ≠ environment.boolean true)
    (leftValue : (left.evaluate environment focus).outcome = .ok first)
    (rightValue : (right.evaluate environment focus).outcome = .ok second)
    (operator : Comparator) :
    ComparesTrue environment focus left right operator ↔
      Comparator.Holds (environment.equals first second) (environment.order? first second)
        operator := by
  rw [ComparesTrue, outcome_comparison leftValue rightValue, Except.ok.injEq, Binding.compared,
    Comparator.Holds]
  cases operator.verdict? (environment.equals first second) (environment.order? first second) with
  | none => simpa using present
  | some verdict =>
    cases verdict with
    | true => simp
    | false => simpa using different

end

variable {functions : Registry Json} {focus : Json} {left right : Expr} {first second : Number}

theorem comparesTrue_iff
    (leftValue : (left.evaluate (environment functions) focus).outcome = .ok (number first))
    (rightValue : (right.evaluate (environment functions) focus).outcome = .ok (number second))
    (operator : Comparator) :
    ComparesTrue (environment functions) focus left right operator ↔
      first.Holds second operator := by
  have different : (environment functions).boolean false ≠ (environment functions).boolean true :=
    nofun
  have present : (environment functions).null ≠ (environment functions).boolean true := nofun
  exact comparesTrue_iff_holds different present leftValue rightValue operator

theorem comparesTrue_eq_holds
    (leftValue : (left.evaluate (environment functions) focus).outcome = .ok (number first))
    (rightValue : (right.evaluate (environment functions) focus).outcome = .ok (number second)) :
    ComparesTrue (environment functions) focus left right = first.Holds second :=
  funext fun operator => propext (comparesTrue_iff leftValue rightValue operator)

/-- The operators fit together on two numbers unless these are conflated integers, of which one is
beyond `2 ^ 53` in size. Of conflated integers no operator is true that says how they lie to each
other. -/
theorem comparison_coherent_iff
    (leftValue : (left.evaluate (environment functions) focus).outcome = .ok (number first))
    (rightValue : (right.evaluate (environment functions) focus).outcome = .ok (number second)) :
    (Comparator.Coherent (ComparesTrue (environment functions) focus left right) ↔
        ¬ first.Conflated second) ∧
      (first.IsExact → second.IsExact → ¬ first.Conflated second) ∧
      (first.Conflated second → ∀ operator,
        ComparesTrue (environment functions) focus left right operator ↔
          operator ∈ [.notEqual, .lessEqual, .greaterEqual]) := by
  rw [comparesTrue_eq_holds leftValue rightValue]
  exact ⟨Number.coherent_iff_not_conflated first second, Number.IsExact.not_conflated,
    Number.Conflated.holds_iff⟩

theorem comparison_coherent_iff_exact :
    Comparator.Coherent (ComparesTrue Json.plainEnvironment .null
      (literal (number Number.lastExact)) (literal (number (.double (.zero true) rfl)))) := by
  have value (number : Number) :
      ((literal (.number number)).evaluate Json.plainEnvironment .null).outcome =
        .ok (.number number) := rfl
  have verdicts :=
    comparison_coherent_iff (value Number.lastExact) (value (.double (.zero true) rfl))
  exact verdicts.1.2 (verdicts.2.1 ⟨by decide, by decide⟩ trivial)

theorem comparison_not_coherent :
    ¬ Comparator.Coherent (ComparesTrue Json.plainEnvironment .null
      (literal (number Number.firstInexact)) (literal (number Number.lastExact))) := by
  have holds : ComparesTrue Json.plainEnvironment .null (literal (number Number.firstInexact))
      (literal (number Number.lastExact)) = Number.firstInexact.Holds Number.lastExact :=
    comparesTrue_eq_holds rfl rfl
  rw [holds, Number.coherent_iff_not_conflated]
  exact not_not_intro Number.conflated_firstInexact

end Expr

end DocQuery
