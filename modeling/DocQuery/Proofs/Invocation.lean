import DocQuery.Proofs.Action
import DocQuery.Proofs.Admission
import DocQuery.Proofs.Eval.Congruence
import DocQuery.Proofs.Simulation.Functions

/-! Bodies of functions run on nothing but what their signatures accept.

Every call that becomes known in a run was admitted: it stands between the calls that its arguments
make and those that its body makes. Conversely no other arguments matter, since a body may do
anything on arguments that are never admitted.
-/

set_option autoImplicit false

namespace DocQuery

variable {V α β : Type}

namespace Expr

/-- A call on record comes from a call expression whose arguments were admitted on some current
value. The calls of its arguments come right before it, and those of its body right after. -/
def Invoked (environment : Environment V) (expression : Expr) (before : List (Call V))
    (call : Call V) (after : List (Call V)) : Prop :=
  ∃ arguments current function earlier later,
    Within (.call call.name arguments) expression ∧
    Admission environment current call.name arguments function call.arguments ∧
    before = earlier ++ argumentCalls environment current arguments ∧
    after = (environment.perform function call.arguments).calls ++ later

section

variable {environment : Environment V} {expression : Expr} {before after : List (Call V)}
  {call : Call V}

theorem Invoked.prepend (invoked : Invoked environment expression before call after)
    (more : List (Call V)) : Invoked environment expression (more ++ before) call after := by
  obtain ⟨arguments, current, function, earlier, later, within, admission, rfl, rfl⟩ := invoked
  exact ⟨arguments, current, function, more ++ earlier, later, within, admission,
    (List.append_assoc ..).symm, rfl⟩

theorem Invoked.append (invoked : Invoked environment expression before call after)
    (more : List (Call V)) : Invoked environment expression before call (after ++ more) := by
  obtain ⟨arguments, current, function, earlier, later, within, admission, rfl, rfl⟩ := invoked
  exact ⟨arguments, current, function, earlier, later ++ more, within, admission, rfl,
    List.append_assoc ..⟩

def AllInvoked (environment : Environment V) (expression : Expr) (calls : List (Call V)) : Prop :=
  ∀ before call after, calls = before ++ call :: after →
    Invoked environment expression before call after

theorem AllInvoked.nil : AllInvoked environment expression [] := by
  intro before call after split
  simp at split

theorem append_eq_append_cons_iff {first second before after : List α} {item : α} :
    first ++ second = before ++ item :: after ↔
      (∃ middle, first = before ++ item :: middle ∧ after = middle ++ second) ∨
        ∃ middle, before = first ++ middle ∧ second = middle ++ item :: after := by
  rw [List.append_eq_append_iff]
  constructor
  · rintro (⟨middle, rfl, split⟩ | ⟨middle, rfl, split⟩)
    · exact .inr ⟨middle, rfl, split⟩
    · cases middle with
      | nil => exact .inr ⟨[], by simp, split.symm⟩
      | cons head middle =>
        obtain ⟨rfl, rfl⟩ := List.cons_eq_cons.1 split
        exact .inl ⟨middle, rfl, rfl⟩
  · rintro (⟨middle, rfl, rfl⟩ | ⟨middle, rfl, rfl⟩)
    · exact .inr ⟨item :: middle, rfl, rfl⟩
    · exact .inl ⟨middle, rfl, rfl⟩

theorem AllInvoked.append {calls others : List (Call V)}
    (first : AllInvoked environment expression calls)
    (second : AllInvoked environment expression others) :
    AllInvoked environment expression (calls ++ others) := by
  intro before call after split
  obtain ⟨middle, inFirst, rfl⟩ | ⟨middle, rfl, inSecond⟩ := append_eq_append_cons_iff.1 split
  · exact (first before call middle inFirst).append others
  · exact (second middle call after inSecond).prepend calls

theorem AllInvoked.insert {calls others : List (Call V)}
    (first : AllInvoked environment expression calls)
    (invoked : Invoked environment expression calls call others)
    (second : AllInvoked environment expression others) :
    AllInvoked environment expression (calls ++ call :: others) := by
  intro before other after split
  obtain ⟨middle, inFirst, rfl⟩ | ⟨middle, rfl, rest⟩ := append_eq_append_cons_iff.1 split
  · exact (first before other middle inFirst).append _
  · cases middle with
    | nil =>
      obtain ⟨rfl, rfl⟩ := List.cons_eq_cons.1 rest
      rwa [List.append_nil]
    | cons head middle =>
      obtain ⟨rfl, inSecond⟩ := List.cons_eq_cons.1 rest
      have moved := (second middle other after inSecond).prepend (calls ++ [call])
      rwa [List.append_assoc] at moved

end

variable {environment : Environment V} {expression : Expr}

def Mediated (environment : Environment V) (expression : Expr) {α : Type} (run : Run V α) : Prop :=
  AllInvoked environment expression run.calls

theorem sequential_mediated : Run.Sequential (Mediated environment expression) where
  pure value := .nil
  bind {α β run next} first rest := by
    cases outcome : run.outcome with
    | error error =>
      rw [Mediated, Run.bind_of_error next outcome]
      exact first
    | ok value =>
      rw [Mediated, Run.bind_of_ok next outcome]
      exact AllInvoked.append first (rest value outcome)

theorem mediated_run {evaluate : Nat → V → Run V V}
    (answers : ∀ position current, Mediated environment expression (evaluate position current))
    (action : Action V α) : Mediated environment expression (action.run evaluate) := by
  induction action with
  | done value => exact .nil
  | fail error => exact .nil
  | evaluate position current next ih =>
    rw [Mediated, Action.run_evaluate]
    exact (answers position current).append (ih _)

theorem mem_reference {focus : V} {arguments : List Expr} {given : List (Argument V)}
    (entries : List.Forall₂ (Entry environment focus) arguments given) {part : Expr}
    (member : .expression part ∈ given) : reference part ∈ arguments := by
  induction entries with
  | nil => cases member
  | cons entry _ ih =>
    rcases List.mem_cons.1 member with rfl | later
    · cases entry with
      | reference => exact List.mem_cons_self
    · exact List.mem_cons_of_mem _ (ih later)

theorem mediated_answer {focus : V} {arguments : List Expr} {given : List (Argument V)}
    (entries : List.Forall₂ (Entry environment focus) arguments given)
    (parts : ∀ argument ∈ arguments, ∀ part, Within part argument → ∀ input,
      Mediated environment expression (part.evaluate environment input))
    (position : Nat) (current : V) :
    Mediated environment expression (environment.answer given position current) := by
  rw [Environment.answer]
  split
  · exact .nil
  · next part found =>
    have member := mem_reference entries (List.mem_of_getElem? found)
    exact parts _ member part (.of_mem List.mem_cons_self) current
  · exact .nil

theorem mediated_call {name : String} {arguments : List Expr} {focus : V}
    (within : Within (.call name arguments) expression)
    (parts : ∀ argument ∈ arguments, ∀ part, Within part argument → ∀ input,
      Mediated environment expression (part.evaluate environment input)) :
    Mediated environment expression ((call name arguments).evaluate environment focus) := by
  have inArguments : AllInvoked environment expression
      (argumentCalls environment focus arguments) := by
    apply sequential_mediated.mapM
    intro argument member
    exact sequential_mediated.argument argument (parts argument member argument .self focus)
  obtain ⟨function, given, admission⟩ | ⟨error, refusal⟩ :=
    admission_or_refusal environment focus name arguments
  · rw [Mediated, admission.evaluate_eq]
    have inBody : Mediated environment expression (environment.perform function given) :=
      mediated_run (mediated_answer admission.entries parts) _
    refine inArguments.insert ?_ inBody
    exact ⟨arguments, focus, function, [], [], within, admission, rfl, (List.append_nil _).symm⟩
  · rw [Mediated, refusal.evaluate_eq]
    exact inArguments

theorem mediated_evaluate (expression : Expr) (focus : V) :
    Mediated environment expression (expression.evaluate environment focus) := by
  apply sequential_evaluate_of_calls sequential_mediated expression
  · exact fun _ _ _ _ => .nil
  · exact fun name arguments focus within parts => mediated_call within parts

/-- Two environments that differ in nothing but what the bodies of functions do on arguments that
are never admitted. -/
structure SameWhereAdmitted (environment other : Environment V) (expression : Expr) : Prop where
  binding : other.toBinding = environment.toBinding
  functions (name : String) : Option.Rel (fun function function' =>
      function'.signature = function.signature ∧
      ∀ arguments current given, Within (.call name arguments) expression →
        Admission environment current name arguments function given →
        function'.body environment.toBinding given = function.body environment.toBinding given)
    (environment.function? name) (other.function? name)

theorem answer_congr {other : Environment V} {focus : V} {arguments : List Expr}
    {given : List (Argument V)}
    (entries : List.Forall₂ (Entry environment focus) arguments given)
    (parts : ∀ argument ∈ arguments, ∀ part, Within part argument → ∀ input,
      part.evaluate other input = part.evaluate environment input) :
    other.answer given = environment.answer given := by
  funext position current
  rw [Environment.answer, Environment.answer]
  split
  · rfl
  · next part found =>
    have member := mem_reference entries (List.mem_of_getElem? found)
    exact parts _ member part (.of_mem List.mem_cons_self) current
  · rfl

theorem apply_of_sameWhereAdmitted {other : Environment V}
    (same : SameWhereAdmitted environment other expression) {name : String}
    {arguments : List Expr} {focus : V} {given : List (Argument V)}
    (within : Within (.call name arguments) expression)
    (entries : List.Forall₂ (Entry environment focus) arguments given)
    (answers : other.answer given = environment.answer given) :
    other.apply name given = environment.apply name given := by
  have functions := same.functions name
  cases found : environment.function? name with
  | none =>
    rw [found] at functions
    have unknown := (rel_eq_none_iff functions).1 rfl
    rw [Environment.apply_of_unknown found, Environment.apply_of_unknown unknown]
  | some function =>
    cases found' : other.function? name with
    | none =>
      rw [found, found'] at functions
      cases functions
    | some function' =>
      rw [found, found', Option.rel_some_some] at functions
      obtain ⟨signature, body⟩ := functions
      have checks : function'.signature.validate name other.toBinding given =
          function.signature.validate name environment.toBinding given := by
        rw [signature, same.binding]
      cases checked : function.signature.validate name environment.toBinding given with
      | error error =>
        rw [Environment.apply_of_rejected found checked,
          Environment.apply_of_rejected found' (checks.trans checked)]
      | ok _ =>
        rw [Environment.apply_of_accepted found checked,
          Environment.apply_of_accepted found' (checks.trans checked), answers, same.binding,
          body arguments focus given within ⟨entries, found, checked⟩]

/-- No body is run on other arguments, for it might do anything there. -/
theorem evaluate_of_sameWhereAdmitted {other : Environment V}
    (same : SameWhereAdmitted environment other expression) (focus : V) :
    expression.evaluate other focus = expression.evaluate environment focus := by
  have replaced : other = environment.replace environment.object environment.ofJson
      other.functions := by
    obtain ⟨binding, functions⟩ := other
    cases same.binding
    rfl
  rw [replaced]
  apply evaluate_replace
  · exact fun _ _ => rfl
  · exact fun _ _ _ _ => rfl
  · intro name arguments within focus given supplies parts
    rw [← replaced] at parts ⊢
    have entries := supplies_iff.1 supplies
    exact apply_of_sameWhereAdmitted same within entries (answer_congr entries parts)

/-- A call is either refused or its body is entered once, and the reason or the arguments are
determined. -/
inductive Dispatched (environment : Environment V) (current : V) (name : String)
    (arguments : List Expr) : Run V V → Prop where
  | refused {error : EvalError} :
      (∀ other, Refusal environment current name arguments other ↔ other = error) →
      (∀ function given, ¬ Admission environment current name arguments function given) →
      Dispatched environment current name arguments
        ⟨argumentCalls environment current arguments, .error error⟩
  | entered {function : Function V} {given : List (Argument V)} :
      (∀ other given', Admission environment current name arguments other given' ↔
        other = function ∧ given' = given) →
      (∀ error, ¬ Refusal environment current name arguments error) →
      Dispatched environment current name arguments
        ⟨argumentCalls environment current arguments ++
            ⟨name, given⟩ :: (environment.perform function given).calls,
          (environment.perform function given).outcome⟩

theorem dispatched_evaluate (environment : Environment V) (current : V) (name : String)
    (arguments : List Expr) :
    Dispatched environment current name arguments
      ((call name arguments).evaluate environment current) := by
  obtain ⟨function, given, admission⟩ | ⟨error, refusal⟩ :=
    admission_or_refusal environment current name arguments
  · rw [admission.evaluate_eq]
    refine .entered ?_ admission.not_refusal
    intro other given'
    constructor
    · intro admission'
      obtain ⟨supplied, admitted⟩ := admission_iff.1 admission
      obtain ⟨supplied', admitted'⟩ := admission_iff.1 admission'
      cases supplied.symm.trans supplied'
      cases admitted.symm.trans admitted'
      exact ⟨rfl, rfl⟩
    · rintro ⟨rfl, rfl⟩
      exact admission
  · rw [refusal.evaluate_eq]
    refine .refused ?_ fun function given admission => admission.not_refusal error refusal
    intro other
    rw [refusal_iff_verdict, refusal_iff_verdict.1 refusal, Except.error.injEq, eq_comm]

/-- Bodies run on nothing but what their signatures accept, once for each call that is not refused.
Nothing of what a reference refers to has a part in this, and it is evaluated only if the body asks
for it. Bodies themselves evaluate nothing but their own arguments and do not see the registry, so
they enter one another by way of references alone. -/
theorem bodies_run_admitted (environment : Environment V) (expression : Expr) (focus : V) :
    AllInvoked environment expression (expression.evaluate environment focus).calls ∧
    (∀ other, SameWhereAdmitted environment other expression →
      expression.evaluate other focus = expression.evaluate environment focus) ∧
    (∀ name arguments current, Dispatched environment current name arguments
      ((call name arguments).evaluate environment current)) ∧
    (∀ name arguments arguments' current, arguments.map masked = arguments'.map masked →
      argumentCalls environment current arguments = argumentCalls environment current arguments' ∧
      (∀ error, Refusal environment current name arguments error ↔
        Refusal environment current name arguments' error) ∧
      ∀ function, (∃ given, Admission environment current name arguments function given) ↔
        ∃ given, Admission environment current name arguments' function given) ∧
    ∀ function given evaluate, (∀ position current,
        Action.Asks (environment.answer given) (function.body environment.toBinding given) position
          current → evaluate position current = environment.answer given position current) →
      (function.body environment.toBinding given).run evaluate =
        environment.perform function given := by
  refine ⟨mediated_evaluate expression focus, ?_, ?_, ?_, ?_⟩
  · exact fun other same => evaluate_of_sameWhereAdmitted same focus
  · exact fun name arguments current => dispatched_evaluate environment current name arguments
  · intro name arguments arguments' current same
    simp only [exists_admission_iff_verdict, refusal_iff_verdict]
    rw [← verdict_masked arguments, ← verdict_masked arguments', ← argumentCalls_masked arguments,
      ← argumentCalls_masked arguments', same]
    exact ⟨rfl, fun _ => .rfl, fun _ => .rfl⟩
  · exact fun function given evaluate same => Action.run_congr same

-- An `apply` that does not look whether its expression is there.
def uncheckedApply : Registry Json :=
  .ofList [{
    name := "apply"
    signature := .exact [.expression, .any]
    body binding given := .answer 0 (Routine.valueAt binding given 1) }]

theorem sameWhereAdmitted_uncheckedApply (expression : Expr) :
    SameWhereAdmitted (Json.environment Json.applyOnly) (Json.environment uncheckedApply)
      expression where
  binding := rfl
  functions name := by
    by_cases same : name = "apply"
    · subst same
      refine .some ⟨rfl, fun arguments current given _ admission => ?_⟩
      have counted := Signature.admitsCount_of_validate admission.accepted
      have present : 0 < given.length :=
        Nat.lt_of_lt_of_le (by decide) (of_decide_eq_true (Bool.and_eq_true_iff.1 counted).1)
      exact (if_pos present).symm
    · have other : ("apply" == name) = false := beq_eq_false_iff_ne.2 (Ne.symm same)
      have missing (function : Function Json) (named : function.name = "apply") :
          (Registry.ofList [function]).lookup name = none := by
        rw [← named] at other
        exact List.find?_cons_of_neg (by simp [other])
      change Option.Rel _ (Json.applyOnly.lookup name) (uncheckedApply.lookup name)
      rw [Json.applyOnly, missing _ rfl, uncheckedApply, missing _ rfl]
      exact .none

/-- A call for every element of an array, a call with too few arguments for a body that would go on
without them, a refusal that comes before a failing expression, and a body that shows one. -/
theorem bodies_run_admitted_apply :
    Invoked (Json.environment Json.applyOnly)
        (listProjection current (call "apply" [reference (field current "a"), current]))
        [⟨"apply", [.expression (field current "a"), .value (.boolean true)]⟩]
        ⟨"apply", [.expression (field current "a"), .value (.string "b")]⟩ [] ∧
      (call "apply" []).evaluate (Json.environment uncheckedApply) .null =
        (call "apply" []).evaluate (Json.environment Json.applyOnly) .null ∧
      Refusal (Json.environment Json.applyOnly) .null "apply"
        [reference (slice current none none (some 0))] (.invalidArity "apply" "2" 1) ∧
      (Routine.describe.body "show" Json.binding
          [.expression (slice current none none (some 0))]).run (fun _ _ => Run.fail .zeroStep) =
        (Json.environment Json.applyOnly).perform
          (Declaration.function ⟨"show", .exact [.expression], .describe⟩)
          [.expression (slice current none none (some 0))] := by
  refine ⟨?_, ?_, ?_, ?_⟩
  · exact (bodies_run_admitted (Json.environment Json.applyOnly) _
      (.array [.boolean true, .string "b"])).1 _ _ _ rfl
  · exact (bodies_run_admitted (Json.environment Json.applyOnly) _ .null).2.1 _
      (sameWhereAdmitted_uncheckedApply _)
  · have concealed := (bodies_run_admitted (Json.environment Json.applyOnly) current .null).2.2.2.1
      "apply" [reference (slice current none none (some 0))] [reference current] .null rfl
    have found : (Json.environment Json.applyOnly).function? "apply" =
        some (Declaration.function ⟨"apply", .exact [.expression, .any], .apply⟩) := rfl
    exact (concealed.2.1 _).2 (.invalidArity (.cons (.reference current) .nil) found rfl)
  · exact (bodies_run_admitted (Json.environment Json.applyOnly) current .null).2.2.2.2
      (Declaration.function ⟨"show", .exact [.expression], .describe⟩) _ _ nofun

end Expr

end DocQuery
