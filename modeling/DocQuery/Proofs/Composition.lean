import DocQuery.Expr.Build
import DocQuery.Proofs.Admission
import DocQuery.Proofs.Projection
import DocQuery.Proofs.Simulation.Functions
import DocQuery.Proofs.Simulation.Evaluation

/-! Evaluation is compositional: equivalent expressions may stand for one another in any place.

Two things that are looked at besides the value of an expression are whether it is a reference, as
an argument of a call, and whether it leaves a projection open, on the left of a step. Both are
decided by the form of the expression.
-/

set_option autoImplicit false

namespace DocQuery

variable {V : Type}

theorem Binding.similar_eq (binding : Binding V) : Binding.Similar Eq binding binding where
  kindOf := congrArg _
  elements same := List.forall₂_eq_eq_eq ▸ congrArg _ same
  property same name := congrArg (binding.property · name) same
  null := rfl
  boolean _ := rfl
  array same := congrArg _ (List.forall₂_eq_eq_eq ▸ same)
  object {members members'} same := by
    have pairs : List.Forall₂ Eq members members' := same.imp fun _ _ pair => Prod.ext pair.1 pair.2
    exact congrArg _ (List.forall₂_eq_eq_eq ▸ pairs)
  equals := congrArg₂ _
  isArray := congrArg _
  isObject := congrArg _
  isNull := congrArg _
  kindName := congrArg _
  arrayLength := congrArg _
  isTruthy := congrArg _
  elementAt same position := congrArg (binding.elementAt · position) same
  compare? := congrArg₂ _

theorem Binding.propertyValues_eq (binding : Binding V) {value value' : V} (same : value = value') :
    List.Forall₂ Eq (binding.propertyValues value) (binding.propertyValues value') :=
  List.forall₂_eq_eq_eq ▸ congrArg _ same

namespace Expr

/-- On every current value the same value, or the same error. -/
def Equivalent (environment : Environment V) (first second : Expr) : Prop :=
  ∀ focus, (first.evaluate environment focus).outcome = (second.evaluate environment focus).outcome

/-- Expressions that nothing around them tells apart: they are equivalent, whether evaluated or
handed over as an argument, and leave a projection open both or neither. -/
structure StandsFor (environment : Environment V) (first second : Expr) : Prop where
  simulated : Simulated Eq environment environment first second
  argument (focus : V) : Agree Eq (first.argument environment focus).outcome
    (second.argument environment focus).outcome
  mark : first.isProjecting = second.isProjecting

variable {environment : Environment V} {first second : Expr}

theorem simulated_eq_iff :
    Simulated Eq environment environment first second ↔ Equivalent environment first second := by
  constructor
  · exact fun simulated focus => agree_eq_iff.1 (simulated focus focus rfl)
  · rintro equivalent focus _ rfl
    exact agree_eq_iff.2 (equivalent focus)

theorem StandsFor.refl (expression : Expr) : StandsFor environment expression expression where
  simulated := simulated_eq_iff.2 fun _ => rfl
  argument _ := agree_eq_iff.2 rfl
  mark := rfl

-- What is no reference is handed over as its value.
theorem StandsFor.of_values (evaluated : first.form ≠ .reference)
    (evaluated' : second.form ≠ .reference)
    (simulated : Simulated Eq environment environment first second)
    (mark : first.isProjecting = second.isProjecting) : StandsFor environment first second where
  simulated := simulated
  argument focus := by
    rw [argument_eq evaluated, argument_eq evaluated']
    exact Run.agree_map (simulated focus focus rfl) fun _ _ => congrArg _
  mark := mark

theorem simulated_call {arguments arguments' : List Expr} (name : String)
    (parts : List.Forall₂ (StandsFor environment) arguments arguments') :
    Simulated Eq environment environment (call name arguments) (call name arguments') := by
  rintro focus _ rfl
  rw [evaluate_call, evaluate_call]
  refine Run.agree_bind (Run.agree_mapM parts fun _ _ _ part => part.argument focus) ?_
  intro given given' same
  rw [List.forall₂_eq_eq_eq] at same
  exact agree_eq_iff.2 (congrArg _ (congrArg _ same))

mutual

-- Steps are the only form that leaves a projection open or not as its parts do.
theorem standsFor_fill (hole : StandsFor environment first second) (context : Context) :
    StandsFor environment (context.fill first) (context.fill second) := by
  match context with
  | .hole => exact hole
  | .current | .identity | .literal _ | .reference _ => exact .refl _
  | .field source name =>
    refine .of_values nofun nofun ?_ rfl
    exact .field environment.similar_eq name (standsFor_fill hole source).simulated
  | .index source position =>
    refine .of_values nofun nofun ?_ rfl
    exact .index environment.similar_eq position (standsFor_fill hole source).simulated
  | .slice source start stop step =>
    refine .of_values nofun nofun ?_ rfl
    exact .slice environment.similar_eq start stop step (standsFor_fill hole source).simulated
  | .flattenList source =>
    refine .of_values nofun nofun ?_ rfl
    exact .flattenList environment.similar_eq (standsFor_fill hole source).simulated
  | .not operand =>
    refine .of_values nofun nofun ?_ rfl
    exact .not environment.similar_eq (standsFor_fill hole operand).simulated
  | .pipe left right =>
    refine .of_values nofun nofun ?_ rfl
    exact .pipe (standsFor_fill hole left).simulated (standsFor_fill hole right).simulated
  | .sub left right =>
    have leftStands := standsFor_fill hole left
    have rightStands := standsFor_fill hole right
    have mark := congrArg₂ Bool.or leftStands.mark rightStands.mark
    refine .of_values nofun nofun ?_ mark
    exact .sub environment.similar_eq leftStands.mark leftStands.simulated rightStands.simulated
  | .listProjection source body =>
    refine .of_values nofun nofun ?_ rfl
    exact .listProjection environment.similar_eq (standsFor_fill hole source).simulated
      (standsFor_fill hole body).simulated
  | .objectProjection source body =>
    refine .of_values nofun nofun ?_ rfl
    exact .objectProjection environment.similar_eq environment.propertyValues_eq
      (standsFor_fill hole source).simulated (standsFor_fill hole body).simulated
  | .flattenProjection source body =>
    refine .of_values nofun nofun ?_ rfl
    exact .flattenProjection environment.similar_eq (standsFor_fill hole source).simulated
      (standsFor_fill hole body).simulated
  | .filter source predicate =>
    refine .of_values nofun nofun ?_ rfl
    exact .filter environment.similar_eq (standsFor_fill hole source).simulated
      (standsFor_fill hole predicate).simulated
  | .comparison operator left right =>
    refine .of_values nofun nofun ?_ rfl
    exact .comparison environment.similar_eq operator (standsFor_fill hole left).simulated
      (standsFor_fill hole right).simulated
  | .and left right =>
    refine .of_values nofun nofun ?_ rfl
    exact .and environment.similar_eq (standsFor_fill hole left).simulated
      (standsFor_fill hole right).simulated
  | .or left right =>
    refine .of_values nofun nofun ?_ rfl
    exact .or environment.similar_eq (standsFor_fill hole left).simulated
      (standsFor_fill hole right).simulated
  | .multiSelectList items =>
    refine .of_values nofun nofun ?_ rfl
    exact .multiSelectList environment.similar_eq (standsFor_fillAll hole items)
      fun _ _ _ item => item.simulated
  | .multiSelectHash entries =>
    refine .of_values nofun nofun ?_ rfl
    exact .multiSelectHash environment.similar_eq (standsFor_fillEntries hole entries)
      fun _ _ _ entry => entry.simulated
  | .call name arguments =>
    refine .of_values nofun nofun ?_ rfl
    exact simulated_call name (standsFor_fillAll hole arguments)
termination_by structural context

theorem standsFor_fillAll (hole : StandsFor environment first second) (contexts : List Context) :
    List.Forall₂ (StandsFor environment) (Context.fillAll contexts first)
      (Context.fillAll contexts second) := by
  match contexts with
  | [] => exact .nil
  | context :: rest => exact .cons (standsFor_fill hole context) (standsFor_fillAll hole rest)
termination_by structural contexts

theorem standsFor_fillEntries (hole : StandsFor environment first second)
    (entries : List (String × Context)) :
    List.Forall₂ (MemberRelated (StandsFor environment)) (Context.fillEntries entries first)
      (Context.fillEntries entries second) := by
  match entries with
  | [] => exact .nil
  | (key, context) :: rest =>
    exact .cons ⟨rfl, standsFor_fill hole context⟩ (standsFor_fillEntries hole rest)
termination_by structural entries

end

/-- Equivalent expressions may stand for one another in every context, if both are evaluated where
they stand and leave a projection open both or neither. -/
theorem equivalent_fill (environment : Environment V) {first second : Expr}
    (evaluated : first.form ≠ .reference) (evaluated' : second.form ≠ .reference)
    (mark : first.isProjecting = second.isProjecting)
    (equivalent : Equivalent environment first second) (context : Context) :
    Equivalent environment (context.fill first) (context.fill second) := by
  have hole : StandsFor environment first second :=
    .of_values evaluated evaluated' (simulated_eq_iff.2 equivalent) mark
  exact simulated_eq_iff.1 (standsFor_fill hole context).simulated

def continuedProjection : Expr := sub (listProjection current current) (field current "a")

def nestedProjection : Expr := listProjection (listProjection current current) (field current "a")

def continuedArgument : Context :=
  .call "apply" [.reference current, .sub .hole (.field .current "b")]

theorem equivalent_fill_projection :
    continuedProjection.form ≠ .reference ∧ nestedProjection.form ≠ .reference ∧
      continuedProjection.isProjecting = nestedProjection.isProjecting ∧
      Equivalent (Json.environment Json.applyOnly) continuedProjection nestedProjection ∧
      Equivalent (Json.environment Json.applyOnly) (continuedArgument.fill continuedProjection)
        (continuedArgument.fill nestedProjection) := by
  have equivalent :
      Equivalent (Json.environment Json.applyOnly) continuedProjection nestedProjection := by
    intro focus
    exact congrArg Run.outcome
      (evaluate_sub_of_isProjecting (Json.environment Json.applyOnly) (fun _ => rfl) rfl _ focus)
  have evaluated : continuedProjection.form ≠ .reference := by decide
  have evaluated' : nestedProjection.form ≠ .reference := by decide
  exact ⟨evaluated, evaluated', rfl, equivalent,
    equivalent_fill _ evaluated evaluated' rfl equivalent continuedArgument⟩

end Expr

end DocQuery
