import DocQuery.Proofs.Eval.Calls
import DocQuery.Proofs.Simulation.Binding

/-! Function calls through two similar bindings.

Signatures accept and reject related arguments alike, with the same message. Bodies may be anything
that takes related arguments to related results, given that it is answered relatedly.
-/

set_option autoImplicit false

namespace DocQuery

variable {V W : Type}

inductive Argument.Related (relation : V → W → Prop) (expressions : Expr → Expr → Prop) :
    Argument V → Argument W → Prop where
  | value {given : V} {given' : W} : relation given given' →
      Related relation expressions (.value given) (.value given')
  | expression {given given' : Expr} : expressions given given' →
      Related relation expressions (.expression given) (.expression given')

theorem Argument.Related.mono {relation : V → W → Prop} {expressions weaker : Expr → Expr → Prop}
    {argument : Argument V} {argument' : Argument W}
    (related : argument.Related relation expressions argument')
    (implies : ∀ given given', expressions given given' → weaker given given') :
    argument.Related relation weaker argument' := by
  cases related with
  | value related => exact .value related
  | expression related => exact .expression (implies _ _ related)

/-- Asked to evaluate the same argument on related values, two environments answer relatedly. -/
def AnswerRelatedly (relation : V → W → Prop) (first : Environment V) (second : Environment W)
    (arguments : List (Argument V)) (arguments' : List (Argument W)) : Prop :=
  ∀ position current current', relation current current' →
    Agree relation (first.answer arguments position current).outcome
      (second.answer arguments' position current').outcome

def Expr.Simulated (relation : V → W → Prop) (first : Environment V) (second : Environment W)
    (expression expression' : Expr) : Prop :=
  ∀ value value', relation value value' →
    Agree relation (expression.evaluate first value).outcome
      (expression'.evaluate second value').outcome

/-- Functions of one signature, whose bodies give related results for related arguments as long as
they are answered relatedly. -/
structure Function.Similar (relation : V → W → Prop) (expressions : Expr → Expr → Prop)
    (first : Environment V) (second : Environment W) (function : Function V)
    (function' : Function W) : Prop where
  signature : function.signature = function'.signature
  body (arguments : List (Argument V)) (arguments' : List (Argument W)) :
    List.Forall₂ (Argument.Related relation expressions) arguments arguments' →
    AnswerRelatedly relation first second arguments arguments' →
    Agree relation
      ((function.body first.toBinding arguments).run (first.answer arguments)).outcome
      ((function'.body second.toBinding arguments').run (second.answer arguments')).outcome

/-- Either both environments have a function of a name, and these are similar, or neither has. -/
def Environment.SimilarAt (relation : V → W → Prop) (expressions : Expr → Expr → Prop)
    (first : Environment V) (second : Environment W) (name : String) : Prop :=
  Option.Rel (Function.Similar relation expressions first second)
    (first.function? name) (second.function? name)

variable {relation : V → W → Prop} {expressions : Expr → Expr → Prop}

namespace Binding.Similar

variable {first : Binding V} {second : Binding W}
  (similar : Binding.Similar relation first second)

include similar

theorem elementKinds {value : V} {value' : W} (related : relation value value') :
    (first.elements value).map first.kindOf = (second.elements value').map second.kindOf := by
  have kinds := List.rel_map (P := Eq) (fun _ _ element => similar.kindOf element)
    (similar.elements related)
  rwa [List.forall₂_eq_eq_eq] at kinds

-- The elements of an array are accepted by their kinds, which are the same.
theorem accepts (parameter : Parameter) {argument : Argument V} {argument' : Argument W}
    (related : argument.Related relation expressions argument') :
    parameter.accepts first argument = parameter.accepts second argument' := by
  cases related with
  | expression _ => cases parameter <;> rfl
  | @value given given' related =>
    cases parameter with
    | any | expression => rfl
    | kinds accepted => simp only [Parameter.accepts, similar.kindOf related]
    | arrayOf accepted =>
      have all := congrArg (List.all · accepted.contains) (similar.elementKinds related)
      simp only [List.all_map] at all
      simp only [Parameter.accepts, similar.isArray related]
      exact congrArg (second.isArray given' && ·) all

theorem description {argument : Argument V} {argument' : Argument W}
    (related : argument.Related relation expressions argument') :
    argument.description first = argument'.description second := by
  cases related with
  | expression _ => rfl
  | value related =>
    simp only [Argument.description, similar.isArray related, similar.elementKinds related,
      similar.kindName related]

theorem checkFrom (signature : Signature) (name : String) (position : Nat)
    {arguments : List (Argument V)} {arguments' : List (Argument W)}
    (related : List.Forall₂ (Argument.Related relation expressions) arguments arguments') :
    signature.checkFrom name first position arguments =
      signature.checkFrom name second position arguments' := by
  induction related generalizing position with
  | nil => rfl
  | cons head _ ih =>
    rw [Signature.checkFrom, Signature.checkFrom]
    split
    · exact ih (position + 1)
    · rw [similar.accepts _ head, similar.description head, ih (position + 1)]

theorem validate (signature : Signature) (name : String) {arguments : List (Argument V)}
    {arguments' : List (Argument W)}
    (related : List.Forall₂ (Argument.Related relation expressions) arguments arguments') :
    signature.validate name first arguments = signature.validate name second arguments' := by
  rw [Signature.validate, Signature.validate, related.length_eq,
    similar.checkFrom signature name 0 related]

end Binding.Similar

variable {first : Environment V} {second : Environment W}

theorem Environment.SimilarAt.apply
    (binding : Binding.Similar relation first.toBinding second.toBinding) {name : String}
    (similar : Environment.SimilarAt relation expressions first second name)
    {arguments : List (Argument V)} {arguments' : List (Argument W)}
    (related : List.Forall₂ (Argument.Related relation expressions) arguments arguments')
    (answers : AnswerRelatedly relation first second arguments arguments') :
    Agree relation (first.apply name arguments).outcome
      (second.apply name arguments').outcome := by
  unfold SimilarAt at similar
  cases found : first.function? name with
  | none =>
    cases found' : second.function? name with
    | none =>
      rw [Environment.apply_of_unknown found, Environment.apply_of_unknown found']
      exact .error _
    | some function' =>
      rw [found, found'] at similar
      cases similar
  | some function =>
    cases found' : second.function? name with
    | none =>
      rw [found, found'] at similar
      cases similar
    | some function' =>
      rw [found, found'] at similar
      cases similar with | some pair => ?_
      have verdicts : function.signature.validate name first.toBinding arguments =
          function'.signature.validate name second.toBinding arguments' := by
        rw [pair.signature, binding.validate _ name related]
      cases accepted : function.signature.validate name first.toBinding arguments with
      | error error =>
        rw [Environment.apply_of_rejected found accepted,
          Environment.apply_of_rejected found' (verdicts.symm.trans accepted)]
        exact .error error
      | ok _ =>
        rw [Environment.apply_of_accepted found accepted,
          Environment.apply_of_accepted found' (verdicts.symm.trans accepted)]
        exact pair.body arguments arguments' related answers

/-- Values answer for themselves, so it is enough that corresponding expressions agree. -/
theorem answerRelatedly_of_simulated {arguments : List (Argument V)}
    {arguments' : List (Argument W)}
    (related : List.Forall₂ (Argument.Related relation (Expr.Simulated relation first second))
      arguments arguments') :
    AnswerRelatedly relation first second arguments arguments' := by
  intro position current current' relatedCurrent
  have found := forall₂_getElem? related position
  rw [Environment.answer, Environment.answer]
  generalize arguments[position]? = argument?, arguments'[position]? = argument'? at found ⊢
  cases found with
  | none => exact .ok relatedCurrent
  | some pair =>
    cases pair with
    | value relatedValue => exact .ok relatedValue
    | expression simulated => exact simulated current current' relatedCurrent

end DocQuery
