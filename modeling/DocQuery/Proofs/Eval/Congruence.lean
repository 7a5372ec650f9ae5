import DocQuery.Proofs.Eval.Sequential

/-! Evaluation uses no more of an environment than it comes upon.

Objects may be built and constants read in another way, and functions may be others, and an
expression does not notice, as long as its own objects, constants and calls stay the same.
-/

set_option autoImplicit false

namespace DocQuery

variable {V α β : Type}

namespace Run

theorem mapM_congr {first second : α → Run V β} {items : List α}
    (same : ∀ item ∈ items, first item = second item) : items.mapM first = items.mapM second := by
  induction items with
  | nil => rfl
  | cons item rest ih =>
    rw [List.mapM_cons, List.mapM_cons, same item List.mem_cons_self,
      ih fun other member => same other (List.mem_cons_of_mem _ member)]

theorem Returns.map_congr {post : α → Prop} {run : Run V α} {first second : α → β}
    (returns : run.Returns post) (same : ∀ value, post value → first value = second value) :
    first <$> run = second <$> run := by
  rw [← bind_pure_comp, ← bind_pure_comp]
  exact returns.bind_congr fun value satisfied => by rw [same value satisfied]

theorem returns_names {entries : List (String × α)} {body : String × α → Run V β} :
    (entries.mapM fun entry => (entry.1, ·) <$> body entry).Returns fun members =>
      members.map Prod.fst = entries.map Prod.fst := by
  intro members success
  have named : List.Forall₂ (fun entry member => entry.1 = member.1) entries members := by
    apply (forall₂_of_mapM success).imp
    intro entry member returned
    rw [← bind_pure_comp] at returned
    obtain ⟨value, -, same⟩ := outcome_bind_eq_ok_iff.1 returned
    cases same
    rfl
  have names := List.rel_map (P := Eq) (fun _ _ same => same) named
  exact (List.forall₂_eq_eq_eq ▸ names).symm

end Run

namespace Environment

/-- The environment with another way to build objects and to read constants, and with other
functions. -/
def replace (environment : Environment V) (object : List (String × V) → V) (ofJson : Json → V)
    (functions : Option (Registry V)) : Environment V :=
  { environment with object, ofJson, functions }

end Environment

namespace Expr

variable {environment : Environment V} {object : List (String × V) → V} {ofJson : Json → V}
  {functions : Option (Registry V)}

theorem argument_congr {first second : Environment V} {argument : Expr} {focus : V}
    (same : argument.evaluate first focus = argument.evaluate second focus) :
    argument.argument first focus = argument.argument second focus := by
  cases argument with
  | reference expression => rfl
  | _ => exact congrArg (Argument.value <$> ·) same

theorem evaluate_replace (expression : Expr)
    (constants : ∀ value, Within (.literal value) expression →
      ofJson value = environment.ofJson value)
    (objects : ∀ entries, Within (.multiSelectHash entries) expression → ∀ members,
      members.map Prod.fst = entries.map Prod.fst → object members = environment.object members)
    (calls : ∀ name arguments, Within (.call name arguments) expression → ∀ focus given,
      Supplies environment focus arguments given →
      (∀ argument ∈ arguments, ∀ part, Within part argument → ∀ input,
        part.evaluate (environment.replace object ofJson functions) input =
          part.evaluate environment input) →
      (environment.replace object ofJson functions).apply name given = environment.apply name given)
    (focus : V) :
    expression.evaluate (environment.replace object ofJson functions) focus =
      expression.evaluate environment focus := by
  induction expression using partInduction generalizing focus with
  | step expression ih =>
    have inner {child : Expr} (member : child ∈ expression.children) (part : Expr)
        (within : Within part child) (input : V) :
        part.evaluate (environment.replace object ofJson functions) input =
          part.evaluate environment input := by
      apply ih child member part within
      · intro value deeper
        exact constants value (.child member (deeper.trans within))
      · intro entries deeper
        exact objects entries (.child member (deeper.trans within))
      · intro name arguments deeper
        exact calls name arguments (.child member (deeper.trans within))
    have part {child : Expr} (member : child ∈ expression.children) :
        child.evaluate (environment.replace object ofJson functions) = child.evaluate environment :=
      funext (inner member child .self)
    have only {child : Expr} (parts : expression.children = [child]) :
        child.evaluate (environment.replace object ofJson functions) = child.evaluate environment :=
      part (by simp [parts])
    have both {left right : Expr} (parts : expression.children = [left, right]) :
        left.evaluate (environment.replace object ofJson functions) = left.evaluate environment ∧
          right.evaluate (environment.replace object ofJson functions) =
            right.evaluate environment :=
      ⟨part (by simp [parts]), part (by simp [parts])⟩
    cases expression with
    | current | identity | reference expression => rfl
    | literal value =>
      rw [evaluate_literal, evaluate_literal, ← constants value .self]
      rfl
    | field source name =>
      rw [evaluate_field, evaluate_field, only rfl]
      rfl
    | index source position =>
      rw [evaluate_index, evaluate_index, only rfl]
      rfl
    | slice source start stop step =>
      rw [evaluate_slice, evaluate_slice, only rfl]
      rfl
    | flattenList source =>
      rw [evaluate_flattenList, evaluate_flattenList, only rfl]
      rfl
    | not operand =>
      rw [evaluate_not, evaluate_not, only rfl]
      rfl
    | pipe left right =>
      rw [evaluate_pipe, evaluate_pipe, (both rfl).1, (both rfl).2]
    | sub left right =>
      rw [evaluate_sub, evaluate_sub, (both rfl).1, (both rfl).2]
      rfl
    | listProjection source body =>
      rw [evaluate_listProjection, evaluate_listProjection, (both rfl).1, (both rfl).2]
      rfl
    | objectProjection source body =>
      rw [evaluate_objectProjection, evaluate_objectProjection, (both rfl).1, (both rfl).2]
      rfl
    | flattenProjection source body =>
      rw [evaluate_flattenProjection, evaluate_flattenProjection, (both rfl).1, (both rfl).2]
      rfl
    | filter source predicate =>
      rw [evaluate_filter, evaluate_filter, (both rfl).1, (both rfl).2]
      rfl
    | comparison operator left right =>
      rw [evaluate_comparison, evaluate_comparison, (both rfl).1, (both rfl).2]
      rfl
    | and left right =>
      rw [evaluate_and, evaluate_and, (both rfl).1, (both rfl).2]
      rfl
    | or left right =>
      rw [evaluate_or, evaluate_or, (both rfl).1, (both rfl).2]
      rfl
    | multiSelectList items =>
      have sameItems : items.mapM (·.evaluate (environment.replace object ofJson functions) focus) =
          items.mapM (·.evaluate environment focus) :=
        Run.mapM_congr fun item member => congrFun (part member) focus
      rw [evaluate_multiSelectList, evaluate_multiSelectList, sameItems]
      rfl
    | multiSelectHash entries =>
      have sameEntries : (entries.mapM fun entry => (entry.1, ·) <$>
            entry.2.evaluate (environment.replace object ofJson functions) focus) =
          entries.mapM fun entry => (entry.1, ·) <$> entry.2.evaluate environment focus := by
        apply Run.mapM_congr
        intro entry member
        rw [part (List.mem_map_of_mem member)]
      rw [evaluate_multiSelectHash, evaluate_multiSelectHash, sameEntries]
      change (if environment.isNull focus then pure environment.null else object <$> _) = _
      rw [Run.returns_names.map_congr (objects entries .self)]
    | call name arguments =>
      have sameArguments :
          arguments.mapM (argument (environment.replace object ofJson functions) focus) =
            arguments.mapM (argument environment focus) :=
        Run.mapM_congr fun argument member => argument_congr (congrFun (part member) focus)
      have supplied : (arguments.mapM (argument environment focus)).Returns
          (Supplies environment focus arguments) := fun _ => Run.forall₂_of_mapM
      rw [evaluate_call, evaluate_call, sameArguments]
      exact supplied.bind_congr fun given supplies =>
        calls name arguments .self focus given supplies fun _ => inner

end Expr

end DocQuery
