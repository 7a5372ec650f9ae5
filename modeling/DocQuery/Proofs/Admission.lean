import DocQuery.Proofs.Eval.Sequential
import DocQuery.Proofs.Members
import DocQuery.Proofs.Signature

/-! What becomes of a function call: either its body is entered or the call is refused.

A call evaluates its arguments, looks up the function, and has the arguments checked, in this order.
The first of these steps to fail gives the error, and the body is entered if none does. None of them
looks into the expression of a reference.
-/

set_option autoImplicit false

namespace DocQuery

variable {V : Type}

namespace Environment

def callee (environment : Environment V) (name : String) (given : List (Argument V)) :
    Except EvalError (Function V) :=
  match environment.function? name with
  | none => .error (.unknownFunction name)
  | some function =>
    (fun _ => function) <$> function.signature.validate name environment.toBinding given

def perform (environment : Environment V) (function : Function V) (given : List (Argument V)) :
    Run V V :=
  (function.body environment.toBinding given).run (environment.answer given)

variable {environment : Environment V} {name : String} {given : List (Argument V)}
  {function : Function V} {error : EvalError}

theorem callee_of_unknown (unknown : environment.function? name = none) :
    environment.callee name given = .error (.unknownFunction name) := by
  simp only [callee, unknown]

theorem callee_of_found (found : environment.function? name = some function) :
    environment.callee name given =
      (fun _ => function) <$> function.signature.validate name environment.toBinding given := by
  simp only [callee, found]

theorem callee_eq_ok_iff :
    environment.callee name given = .ok function ↔ environment.function? name = some function ∧
      function.signature.validate name environment.toBinding given = .ok () := by
  cases found : environment.function? name with
  | none =>
    rw [callee_of_unknown found]
    exact iff_of_false nofun nofun
  | some other =>
    rw [callee_of_found found, Option.some.injEq]
    cases checked : other.signature.validate name environment.toBinding given with
    | error error =>
      refine iff_of_false nofun ?_
      rintro ⟨rfl, accepted⟩
      cases checked.symm.trans accepted
    | ok _ =>
      constructor
      · intro same
        cases same
        exact ⟨rfl, checked⟩
      · rintro ⟨rfl, -⟩
        rfl

theorem callee_of_not_admitsCount (found : environment.function? name = some function)
    (refused : function.signature.admitsCount given.length = false) :
    environment.callee name given =
      .error (.invalidArity name function.signature.arityText given.length) := by
  rw [callee_of_found found, Signature.validate_of_not_admitsCount refused]
  rfl

theorem callee_of_rejectsFirst (found : environment.function? name = some function)
    (counted : function.signature.admitsCount given.length = true) {position : Nat}
    {parameter : Parameter} {argument : Argument V}
    (rejects : function.signature.RejectsFirst environment.toBinding 0 given position parameter
      argument) :
    environment.callee name given = .error (.invalidArgument name (position + 1) parameter.text
      (argument.description environment.toBinding)) := by
  rw [callee_of_found found, Signature.validate_of_admitsCount counted, rejects.checkFrom_eq,
    Nat.zero_add]
  rfl

theorem apply_of_callee_error (refused : environment.callee name given = .error error) :
    environment.apply name given = Run.fail error := by
  cases found : environment.function? name with
  | none =>
    rw [callee_of_unknown found] at refused
    cases refused
    exact apply_of_unknown found
  | some function =>
    rw [callee_of_found found] at refused
    cases checked : function.signature.validate name environment.toBinding given with
    | error cause =>
      rw [checked] at refused
      cases refused
      exact apply_of_rejected found checked
    | ok _ =>
      rw [checked] at refused
      cases refused

theorem apply_of_callee_ok (admitted : environment.callee name given = .ok function) :
    environment.apply name given = ⟨⟨name, given⟩ :: (environment.perform function given).calls,
      (environment.perform function given).outcome⟩ := by
  obtain ⟨found, accepted⟩ := callee_eq_ok_iff.1 admitted
  rw [apply_of_accepted found accepted, Run.bind_of_ok _ rfl]
  rfl

end Environment

namespace Expr

variable {environment : Environment V} {focus : V} {name : String} {arguments : List Expr}

/-! ## Arguments -/

/-- What a function is given for an argument: the expression of a reference, and the value of any
other on the current value. -/
inductive Entry (environment : Environment V) (focus : V) : Expr → Argument V → Prop where
  | reference (expression : Expr) :
      Entry environment focus (.reference expression) (.expression expression)
  | value {argument : Expr} {given : V} : argument.form ≠ .reference →
      (argument.evaluate environment focus).outcome = .ok given →
      Entry environment focus argument (.value given)

theorem argument_eq {argument : Expr} (other : argument.form ≠ .reference) :
    argument.argument environment focus =
      Argument.value <$> argument.evaluate environment focus := by
  cases argument with
  | reference expression => exact absurd rfl other
  | _ => rfl

theorem outcome_argument_eq_ok_iff {argument : Expr} {given : Argument V} :
    (argument.argument environment focus).outcome = .ok given ↔
      Entry environment focus argument given := by
  by_cases form : argument.form = .reference
  · cases argument with
    | reference expression =>
      constructor
      · intro same
        cases same
        exact .reference expression
      · intro entry
        cases entry with
        | reference => rfl
        | value other => exact absurd rfl other
    | _ => cases form
  · rw [argument_eq form, ← bind_pure_comp, Run.outcome_bind_eq_ok_iff]
    constructor
    · rintro ⟨value, returned, same⟩
      cases same
      exact .value form returned
    · intro entry
      cases entry with
      | reference => exact absurd rfl form
      | value _ returned => exact ⟨_, returned, rfl⟩

theorem outcome_argument_eq_error_iff {argument : Expr} {error : EvalError} :
    (argument.argument environment focus).outcome = .error error ↔
      argument.form ≠ .reference ∧
        (argument.evaluate environment focus).outcome = .error error := by
  by_cases form : argument.form = .reference
  · cases argument with
    | reference expression => exact iff_of_false nofun fun failed => failed.1 rfl
    | _ => cases form
  · rw [argument_eq form, ← bind_pure_comp, Run.outcome_bind_eq_error_iff]
    simp [form]

theorem supplies_iff {given : List (Argument V)} :
    Supplies environment focus arguments given ↔
      List.Forall₂ (Entry environment focus) arguments given := by
  apply forall₂_congr_of_mem
  exact fun argument _ value _ => outcome_argument_eq_ok_iff

def argumentCalls (environment : Environment V) (focus : V) (arguments : List Expr) :
    List (Call V) :=
  (arguments.mapM (argument environment focus)).calls

/-! ## Entering and refusing -/

/-- The body of a function is entered with its arguments. -/
structure Admission (environment : Environment V) (focus : V) (name : String)
    (arguments : List Expr) (function : Function V) (given : List (Argument V)) : Prop where
  entries : List.Forall₂ (Entry environment focus) arguments given
  found : environment.function? name = some function
  accepted : function.signature.validate name environment.toBinding given = .ok ()

/-- Why a call is refused. Each of the reasons asks that none of those before it is there. -/
inductive Refusal (environment : Environment V) (focus : V) (name : String)
    (arguments : List Expr) : EvalError → Prop where
  | argument {before after : List Expr} {failing : Expr} {given : List (Argument V)}
      {error : EvalError} : arguments = before ++ failing :: after →
      List.Forall₂ (Entry environment focus) before given → failing.form ≠ .reference →
      (failing.evaluate environment focus).outcome = .error error →
      Refusal environment focus name arguments error
  | unknownFunction {given : List (Argument V)} :
      List.Forall₂ (Entry environment focus) arguments given →
      environment.function? name = none →
      Refusal environment focus name arguments (.unknownFunction name)
  | invalidArity {given : List (Argument V)} {function : Function V} :
      List.Forall₂ (Entry environment focus) arguments given →
      environment.function? name = some function →
      function.signature.admitsCount arguments.length = false →
      Refusal environment focus name arguments
        (.invalidArity name function.signature.arityText arguments.length)
  | invalidArgument {given : List (Argument V)} {function : Function V} {position : Nat}
      {parameter : Parameter} {argument : Argument V} :
      List.Forall₂ (Entry environment focus) arguments given →
      environment.function? name = some function →
      function.signature.admitsCount arguments.length = true →
      function.signature.RejectsFirst environment.toBinding 0 given position parameter argument →
      Refusal environment focus name arguments
        (.invalidArgument name (position + 1) parameter.text
          (argument.description environment.toBinding))

theorem admission_iff {function : Function V} {given : List (Argument V)} :
    Admission environment focus name arguments function given ↔
      (arguments.mapM (argument environment focus)).outcome = .ok given ∧
        environment.callee name given = .ok function := by
  rw [Run.outcome_mapM_eq_ok_iff, Environment.callee_eq_ok_iff]
  constructor
  · rintro ⟨entries, found, accepted⟩
    exact ⟨supplies_iff.2 entries, found, accepted⟩
  · rintro ⟨supplies, found, accepted⟩
    exact ⟨supplies_iff.1 supplies, found, accepted⟩

-- What is decided of a call before a body is entered.
def verdict (environment : Environment V) (focus : V) (name : String) (arguments : List Expr) :
    Except EvalError (Function V) :=
  (arguments.mapM (argument environment focus)).outcome >>= environment.callee name

theorem exists_admission_iff_verdict {function : Function V} :
    (∃ given, Admission environment focus name arguments function given) ↔
      verdict environment focus name arguments = .ok function := by
  simp only [admission_iff, verdict]
  cases (arguments.mapM (argument environment focus)).outcome with
  | error cause => simp [bind, Except.bind]
  | ok given => simp [bind, Except.bind]

theorem verdict_of_entries {given : List (Argument V)}
    (entries : List.Forall₂ (Entry environment focus) arguments given) :
    verdict environment focus name arguments = environment.callee name given := by
  rw [verdict, Run.outcome_mapM_eq_ok_iff.2 (supplies_iff.2 entries)]
  rfl

theorem Refusal.of_callee {given : List (Argument V)} {error : EvalError}
    (entries : List.Forall₂ (Entry environment focus) arguments given)
    (refused : environment.callee name given = .error error) :
    Refusal environment focus name arguments error := by
  cases found : environment.function? name with
  | none =>
    rw [Environment.callee_of_unknown found] at refused
    cases refused
    exact .unknownFunction entries found
  | some function =>
    rw [Environment.callee_of_found found] at refused
    have length := entries.length_eq
    cases counted : function.signature.admitsCount arguments.length with
    | false =>
      rw [Signature.validate_of_not_admitsCount (length ▸ counted), ← length] at refused
      cases refused
      exact .invalidArity entries found counted
    | true =>
      rw [Signature.validate_of_admitsCount (length ▸ counted)] at refused
      obtain accepted | ⟨position, parameter, argument, rejects⟩ :=
        Signature.checkFrom_eq_ok_or_rejectsFirst 0 given
      · rw [accepted] at refused
        cases refused
      · rw [rejects.checkFrom_eq, Nat.zero_add] at refused
        cases refused
        exact .invalidArgument entries found counted rejects

theorem refusal_iff_verdict {error : EvalError} :
    Refusal environment focus name arguments error ↔
      verdict environment focus name arguments = .error error := by
  constructor
  · intro refusal
    cases refusal with
    | argument split entries other failed =>
      have failure := Run.outcome_mapM_eq_error_iff.2 ⟨_, _, _, _, split, supplies_iff.2 entries,
        outcome_argument_eq_error_iff.2 ⟨other, failed⟩⟩
      rw [verdict, failure]
      rfl
    | unknownFunction entries unknown =>
      exact (verdict_of_entries entries).trans (Environment.callee_of_unknown unknown)
    | invalidArity entries found refused =>
      have length := entries.length_eq
      rw [verdict_of_entries entries, length]
      exact Environment.callee_of_not_admitsCount found (length ▸ refused)
    | invalidArgument entries found counted rejects =>
      rw [verdict_of_entries entries]
      exact Environment.callee_of_rejectsFirst found (entries.length_eq ▸ counted) rejects
  · intro failure
    cases outcome : (arguments.mapM (argument environment focus)).outcome with
    | error cause =>
      rw [verdict, outcome] at failure
      cases failure
      obtain ⟨before, failing, after, given, split, supplies, failed⟩ :=
        Run.outcome_mapM_eq_error_iff.1 outcome
      obtain ⟨other, failed⟩ := outcome_argument_eq_error_iff.1 failed
      exact .argument split (supplies_iff.1 supplies) other failed
    | ok given =>
      have entries := supplies_iff.1 (Run.outcome_mapM_eq_ok_iff.1 outcome)
      rw [verdict_of_entries entries] at failure
      exact .of_callee entries failure

/-! ## The run of a call -/

theorem Refusal.evaluate_eq {error : EvalError}
    (refusal : Refusal environment focus name arguments error) :
    (call name arguments).evaluate environment focus =
      ⟨argumentCalls environment focus arguments, .error error⟩ := by
  have refused := refusal_iff_verdict.1 refusal
  rw [verdict] at refused
  rw [evaluate_call]
  cases outcome : (arguments.mapM (Expr.argument environment focus)).outcome with
  | error cause =>
    rw [outcome] at refused
    cases refused
    exact Run.bind_of_error _ outcome
  | ok given =>
    rw [outcome] at refused
    rw [Run.bind_of_ok _ outcome, Environment.apply_of_callee_error refused]
    exact Run.ext (List.append_nil _) rfl

theorem Admission.evaluate_eq {function : Function V} {given : List (Argument V)}
    (admission : Admission environment focus name arguments function given) :
    (call name arguments).evaluate environment focus =
      ⟨argumentCalls environment focus arguments ++
          ⟨name, given⟩ :: (environment.perform function given).calls,
        (environment.perform function given).outcome⟩ := by
  obtain ⟨outcome, admitted⟩ := admission_iff.1 admission
  rw [evaluate_call, Run.bind_of_ok _ outcome, Environment.apply_of_callee_ok admitted]
  rfl

theorem admission_or_refusal (environment : Environment V) (focus : V) (name : String)
    (arguments : List Expr) :
    (∃ function given, Admission environment focus name arguments function given) ∨
      ∃ error, Refusal environment focus name arguments error := by
  simp only [exists_admission_iff_verdict, refusal_iff_verdict]
  cases verdict environment focus name arguments with
  | error error => exact .inr ⟨error, rfl⟩
  | ok function => exact .inl ⟨function, rfl⟩

theorem Admission.not_refusal {function : Function V} {given : List (Argument V)}
    (admission : Admission environment focus name arguments function given) (error : EvalError) :
    ¬ Refusal environment focus name arguments error := by
  rw [refusal_iff_verdict, exists_admission_iff_verdict.1 ⟨given, admission⟩]
  exact nofun

end Expr

/-! ## What references refer to -/

def Argument.masked : Argument V → Argument V
  | .value given => .value given
  | .expression _ => .expression .current

def Expr.masked : Expr → Expr
  | .reference _ => .reference .current
  | expression => expression

theorem Parameter.accepts_masked (parameter : Parameter) (binding : Binding V)
    (argument : Argument V) :
    parameter.accepts binding argument.masked = parameter.accepts binding argument := by
  cases argument <;> cases parameter <;> rfl

theorem Argument.description_masked (binding : Binding V) (argument : Argument V) :
    argument.masked.description binding = argument.description binding := by
  cases argument <;> rfl

namespace Signature

theorem checkFrom_masked (signature : Signature) (name : String) (binding : Binding V)
    (start : Nat) (given : List (Argument V)) :
    signature.checkFrom name binding start (given.map Argument.masked) =
      signature.checkFrom name binding start given := by
  induction given generalizing start with
  | nil => rfl
  | cons argument rest ih =>
    rw [List.map_cons, checkFrom, checkFrom, ih]
    simp only [Parameter.accepts_masked, Argument.description_masked]

theorem validate_masked (signature : Signature) (name : String) (binding : Binding V)
    (given : List (Argument V)) :
    signature.validate name binding (given.map Argument.masked) =
      signature.validate name binding given := by
  rw [validate, validate, checkFrom_masked, List.length_map]

end Signature

theorem Environment.callee_masked (environment : Environment V) (name : String)
    (given : List (Argument V)) :
    environment.callee name (given.map Argument.masked) = environment.callee name given := by
  simp only [callee, Signature.validate_masked]

namespace Expr

variable {environment : Environment V} {focus : V} {name : String}

theorem argument_masked (expression : Expr) :
    expression.masked.argument environment focus =
      Argument.masked <$> expression.argument environment focus := by
  cases expression with
  | reference expression => rfl
  | _ => exact comp_map Argument.value Argument.masked _

theorem mapM_argument_masked (arguments : List Expr) :
    (arguments.map masked).mapM (argument environment focus) =
      List.map Argument.masked <$> arguments.mapM (argument environment focus) := by
  induction arguments with
  | nil => rfl
  | cons first rest ih =>
    rw [List.map_cons, List.mapM_cons, List.mapM_cons, ih, argument_masked]
    simp only [← bind_pure_comp, bind_assoc, pure_bind, List.map_cons]

theorem argumentCalls_masked (arguments : List Expr) :
    argumentCalls environment focus (arguments.map masked) =
      argumentCalls environment focus arguments := by
  rw [argumentCalls, mapM_argument_masked, Run.calls_map]
  rfl

theorem verdict_masked (arguments : List Expr) :
    verdict environment focus name (arguments.map masked) =
      verdict environment focus name arguments := by
  rw [verdict, mapM_argument_masked, Run.outcome_map, verdict]
  cases (arguments.mapM (argument environment focus)).outcome with
  | error error => rfl
  | ok given => exact environment.callee_masked name given

end Expr

end DocQuery
