import DocQuery.Proofs.Continuation

/-! Filters, and what the connectives of their predicates do to the elements that they keep.

Connectives return values of any kind, and may leave their right side out. What a filter keeps
depends only on whether these values are true.
-/

set_option autoImplicit false

namespace DocQuery

variable {V : Type}

def Run.Succeeds {α : Type} (run : Run V α) : Prop :=
  ∃ value, run.outcome = .ok value

namespace Binding

variable (binding : Binding V) {predicate : V → Run V V} {elements : List V} {element : V}

/-- A predicate is true of an element. It is not if it fails. -/
def judges (predicate : V → Run V V) (element : V) : Bool :=
  match (predicate element).outcome with
  | .ok verdict => binding.isTruthy verdict
  | .error _ => false

/-- A run ends with the elements of a list that meet a condition: one for each position of such an
element, in the order of the positions. -/
def Retains (elements : List V) (condition : V → Prop) (run : Run V V) : Prop :=
  ∃ (positions : List Nat) (kept : List V), positions.Pairwise (· < ·) ∧
    (∀ position, position ∈ positions ↔
      ∃ element, elements[position]? = some element ∧ condition element) ∧
    List.Forall₂ (fun position element => elements[position]? = some element) positions kept ∧
    run.outcome = .ok (binding.array kept)

variable {binding}

theorem judges_of_ok {verdict : V} (returned : (predicate element).outcome = .ok verdict) :
    binding.judges predicate element = binding.isTruthy verdict := by
  rw [judges, returned]

theorem outcome_mark_eq_ok_iff {marked : V × Bool} :
    (predicate element >>= fun verdict =>
        pure (element, binding.isTruthy verdict)).outcome = .ok marked ↔
      (predicate element).Succeeds ∧ (element, binding.judges predicate element) = marked := by
  rw [Run.outcome_bind_eq_ok_iff]
  constructor
  · rintro ⟨verdict, returned, same⟩
    rw [judges_of_ok returned]
    exact ⟨⟨verdict, returned⟩, Except.ok.inj same⟩
  · rintro ⟨⟨verdict, returned⟩, rfl⟩
    exact ⟨verdict, returned, by rw [judges_of_ok returned]; rfl⟩

theorem outcome_select_eq_ok_iff {value : V} :
    (binding.select predicate elements).outcome = .ok value ↔
      (∀ element ∈ elements, (predicate element).Succeeds) ∧
        value = binding.array (elements.filter (binding.judges predicate)) := by
  have marks (marked : List (V × Bool)) :
      (elements.mapM fun element => do
          let verdict ← predicate element
          pure (element, binding.isTruthy verdict)).outcome = .ok marked ↔
        (∀ element ∈ elements, (predicate element).Succeeds) ∧
          elements.map (fun element => (element, binding.judges predicate element)) = marked := by
    rw [Run.outcome_mapM_eq_ok_iff, ← List.forall₂_eq_eq_eq, List.forall₂_map_left_iff,
      ← List.forall₂_and_left]
    simp only [outcome_mark_eq_ok_iff]
  have chosen : ((elements.map fun element =>
      (element, binding.judges predicate element)).filter Prod.snd).map Prod.fst =
        elements.filter (binding.judges predicate) := by
    rw [List.filter_map, List.map_map]
    exact List.map_id _
  rw [select, Run.outcome_bind_eq_ok_iff]
  constructor
  · rintro ⟨marked, returned, same⟩
    obtain ⟨total, rfl⟩ := (marks marked).1 returned
    cases same
    exact ⟨total, by rw [chosen]⟩
  · rintro ⟨total, rfl⟩
    exact ⟨_, (marks _).2 ⟨total, rfl⟩, by rw [chosen]; rfl⟩

theorem agree_select {predicate' : V → Run V V}
    (agree : ∀ element ∈ elements,
      Agree (fun _ _ => True) (predicate element).outcome (predicate' element).outcome) :
    Agree (fun _ _ => True) (binding.select predicate elements).outcome
      (binding.select predicate' elements).outcome := by
  have marks : Agree (List.Forall₂ fun _ _ => True)
      (elements.mapM fun element => do
        let verdict ← predicate element
        pure (element, binding.isTruthy verdict)).outcome
      (elements.mapM fun element => do
        let verdict ← predicate' element
        pure (element, binding.isTruthy verdict)).outcome := by
    apply Run.agree_mapM (List.forall₂_same.2 fun element _ => (rfl : element = element))
    rintro element member _ rfl
    exact Run.agree_bind (agree element member) fun _ _ _ => Run.agree_pure True.intro
  exact Run.agree_bind marks fun _ _ _ => Run.agree_pure True.intro

-- A filtered list is the list at the positions of the elements that pass.
theorem retains_filter {condition : V → Prop} {passes : V → Bool} {run : Run V V}
    (decides : ∀ element ∈ elements, passes element = true ↔ condition element)
    (returned : run.outcome = .ok (binding.array (elements.filter passes))) :
    binding.Retains elements condition run := by
  refine ⟨elements.findIdxs passes, elements.filter passes, List.pairwise_findIdxs, ?_, ?_,
    returned⟩
  · intro position
    rw [List.mem_findIdxs_iff_exists_getElem_pos]
    constructor
    · rintro ⟨bound, passed⟩
      exact ⟨_, List.getElem?_eq_getElem bound, (decides _ (List.getElem_mem bound)).1 passed⟩
    · rintro ⟨element, found, holds⟩
      obtain ⟨bound, rfl⟩ := List.getElem?_eq_some_iff.1 found
      exact ⟨bound, (decides _ (List.getElem_mem bound)).2 holds⟩
  · rw [List.forall₂_iff_get]
    refine ⟨by rw [List.length_findIdxs, List.countP_eq_length_filter], ?_⟩
    intro index listed passed
    rw [List.get_eq_getElem, List.get_eq_getElem,
      List.getElem_filter_eq_getElem_getElem_findIdxs passed]
    exact List.getElem?_eq_getElem _

end Binding

namespace Expr

variable {environment : Environment V} {first second : Expr} {element : V}

/-- An expression has a value on an element, and the value is true. -/
def HoldsOf (environment : Environment V) (predicate : Expr) (element : V) : Prop :=
  ∃ verdict, (predicate.evaluate environment element).outcome = .ok verdict ∧
    environment.isTruthy verdict = true

theorem judges_iff_holdsOf {predicate : Expr} :
    environment.judges (predicate.evaluate environment) element = true ↔
      predicate.HoldsOf environment element := by
  unfold Binding.judges HoldsOf
  cases (predicate.evaluate environment element).outcome with
  | ok verdict => simp only [Except.ok.injEq, exists_eq_left']
  | error error => simp only [reduceCtorEq, false_and, exists_false, Bool.false_eq_true]

theorem succeeds_and :
    ((and first second).evaluate environment element).Succeeds ↔
      (first.evaluate environment element).Succeeds ∧
        (environment.judges (first.evaluate environment) element = true →
          (second.evaluate environment element).Succeeds) := by
  rw [evaluate_and]
  unfold Run.Succeeds
  simp only [Run.outcome_bind_eq_ok_iff]
  constructor
  · rintro ⟨value, verdict, returned, later⟩
    refine ⟨⟨verdict, returned⟩, fun judged => ?_⟩
    rw [Binding.judges_of_ok returned] at judged
    rw [if_pos judged] at later
    exact ⟨value, later⟩
  · rintro ⟨⟨verdict, returned⟩, later⟩
    rw [Binding.judges_of_ok returned] at later
    by_cases judged : environment.isTruthy verdict = true
    · obtain ⟨value, continued⟩ := later judged
      exact ⟨value, verdict, returned, by rw [if_pos judged]; exact continued⟩
    · exact ⟨verdict, verdict, returned, by rw [if_neg judged]; rfl⟩

-- A left side that is not true is the value of the whole, whatever its kind.
theorem judges_and :
    environment.judges ((and first second).evaluate environment) element =
      (environment.judges (first.evaluate environment) element &&
        environment.judges (second.evaluate environment) element) := by
  cases returned : (first.evaluate environment element).outcome with
  | error error =>
    simp only [Binding.judges, evaluate_and, Run.bind_of_error _ returned, returned,
      Bool.false_and]
  | ok verdict =>
    rw [Binding.judges_of_ok returned, Binding.judges, evaluate_and, Run.bind_of_ok _ returned]
    cases judged : environment.isTruthy verdict with
    | false => simpa using judged
    | true => simp [Binding.judges]

theorem succeeds_or (total : (first.evaluate environment element).Succeeds)
    (total' : (second.evaluate environment element).Succeeds) :
    ((or first second).evaluate environment element).Succeeds := by
  obtain ⟨verdict, returned⟩ := total
  rw [evaluate_or, Run.bind_of_ok _ returned]
  cases environment.isTruthy verdict with
  | false => exact total'
  | true => exact ⟨verdict, rfl⟩

theorem judges_or (total : (first.evaluate environment element).Succeeds) :
    environment.judges ((or first second).evaluate environment) element =
      (environment.judges (first.evaluate environment) element ||
        environment.judges (second.evaluate environment) element) := by
  obtain ⟨verdict, returned⟩ := total
  rw [Binding.judges_of_ok returned, Binding.judges, evaluate_or, Run.bind_of_ok _ returned]
  cases judged : environment.isTruthy verdict with
  | false => simp [Binding.judges]
  | true => simpa using judged

theorem succeeds_not (total : (first.evaluate environment element).Succeeds) :
    ((not first).evaluate environment element).Succeeds := by
  obtain ⟨verdict, returned⟩ := total
  rw [evaluate_not]
  exact ⟨_, by rw [Run.outcome_map, returned]; rfl⟩

theorem judges_not (truth : ∀ flag, environment.isTruthy (environment.boolean flag) = flag)
    (total : (first.evaluate environment element).Succeeds) :
    environment.judges ((not first).evaluate environment) element =
      !environment.judges (first.evaluate environment) element := by
  obtain ⟨verdict, returned⟩ := total
  have negated : ((not first).evaluate environment element).outcome =
      .ok (environment.boolean !environment.isTruthy verdict) := by
    rw [evaluate_not, Run.outcome_map, returned]
    rfl
  rw [Binding.judges_of_ok negated, Binding.judges_of_ok returned, truth]

theorem agree_not (environment : Environment V) (operand : Expr) (focus : V) :
    Agree (fun _ _ => True) ((not operand).evaluate environment focus).outcome
      (operand.evaluate environment focus).outcome := by
  rw [evaluate_not, Run.outcome_map]
  cases (operand.evaluate environment focus).outcome with
  | ok value => exact .ok True.intro
  | error error => exact .error error

section

variable {source : Expr} {focus value : V}

theorem filter_judges_and (elements : List V) :
    elements.filter (environment.judges ((and first second).evaluate environment)) =
      (elements.filter (environment.judges (first.evaluate environment))).filter
        (environment.judges (second.evaluate environment)) := by
  rw [List.filter_filter]
  apply List.filter_congr
  intro element _
  rw [judges_and, Bool.and_comm]

/-- The second predicate is evaluated on those elements only of which the first is true. -/
theorem forall_succeeds_and {elements : List V} :
    (∀ element ∈ elements, ((and first second).evaluate environment element).Succeeds) ↔
      (∀ element ∈ elements, (first.evaluate environment element).Succeeds) ∧
        ∀ element ∈ elements.filter (environment.judges (first.evaluate environment)),
          (second.evaluate environment element).Succeeds := by
  simp only [succeeds_and, List.mem_filter, and_imp, forall_and]

/-- A filter by two predicates is a filter by one after the other, also where these may fail. -/
theorem filter_and_iff (arrays : environment.toBinding.KeepsArrays) :
    ((filter source (and first second)).evaluate environment focus).outcome = .ok value ↔
      ((filter (filter source first) second).evaluate environment focus).outcome = .ok value := by
  rw [evaluate_filter, evaluate_filter, evaluate_filter, bind_assoc,
    Run.outcome_bind_eq_ok_iff, Run.outcome_bind_eq_ok_iff]
  refine exists_congr fun input => and_congr_right fun _ => ?_
  cases environment.isArray input with
  | false =>
    simp only [pure_bind, arrays.isArray_null, Bool.false_eq_true, if_false]
  | true =>
    simp only [if_true]
    rw [Run.outcome_bind_eq_ok_iff, Binding.outcome_select_eq_ok_iff, forall_succeeds_and,
      filter_judges_and]
    constructor
    · rintro ⟨⟨total, total'⟩, rfl⟩
      refine ⟨_, Binding.outcome_select_eq_ok_iff.2 ⟨total, rfl⟩, ?_⟩
      rw [if_pos (arrays.isArray_array _), arrays.elements_array]
      exact Binding.outcome_select_eq_ok_iff.2 ⟨total', rfl⟩
    · rintro ⟨middle, before, after⟩
      obtain ⟨total, rfl⟩ := Binding.outcome_select_eq_ok_iff.1 before
      rw [if_pos (arrays.isArray_array _), arrays.elements_array] at after
      obtain ⟨total', rfl⟩ := Binding.outcome_select_eq_ok_iff.1 after
      exact ⟨⟨total, total'⟩, rfl⟩

theorem filter_not_agree (environment : Environment V) (source predicate : Expr) (focus : V) :
    Agree (fun _ _ => True)
      ((filter source (not predicate)).evaluate environment focus).outcome
      ((filter source predicate).evaluate environment focus).outcome := by
  have same : Agree Eq (source.evaluate environment focus).outcome
      (source.evaluate environment focus).outcome := agree_eq_iff.2 rfl
  rw [evaluate_filter, evaluate_filter]
  apply Run.agree_bind same
  rintro input _ rfl
  cases environment.isArray input with
  | false => exact Run.agree_pure True.intro
  | true => exact Binding.agree_select fun element _ => agree_not environment predicate element

theorem outcome_filter_of_succeeds (predicate : Expr) {input : V}
    (returned : (source.evaluate environment focus).outcome = .ok input)
    (isArray : environment.isArray input = true)
    (total : ∀ element ∈ environment.elements input,
      (predicate.evaluate environment element).Succeeds) :
    ((filter source predicate).evaluate environment focus).outcome =
      .ok (environment.array ((environment.elements input).filter
        (environment.judges (predicate.evaluate environment)))) := by
  rw [evaluate_filter, Run.outcome_bind_eq_ok_iff]
  refine ⟨input, returned, ?_⟩
  rw [if_pos isArray]
  exact Binding.outcome_select_eq_ok_iff.2 ⟨total, rfl⟩

end

/-- The connectives of a predicate are an algebra of the parts of a list. By `and` a filter is one
after the other, by `or` it keeps what one of two would keep, and by `not` what the other drops.
Where a predicate fails, the filters by `and` still fail together, and those by `not` alike. -/
theorem filter_algebra (environment : Environment V)
    (arrays : environment.toBinding.KeepsArrays)
    (truth : ∀ flag, environment.isTruthy (environment.boolean flag) = flag)
    (source first second : Expr) (focus : V) :
    (∀ input, (source.evaluate environment focus).outcome = .ok input →
      environment.isArray input = true →
      (∀ element ∈ environment.elements input, (first.evaluate environment element).Succeeds) →
      (∀ element ∈ environment.elements input, (second.evaluate environment element).Succeeds) →
      environment.Retains (environment.elements input) (first.HoldsOf environment)
          ((filter source first).evaluate environment focus) ∧
        environment.Retains (environment.elements input) (second.HoldsOf environment)
          ((filter source second).evaluate environment focus) ∧
        environment.Retains (environment.elements input)
          (fun element => first.HoldsOf environment element ∧ second.HoldsOf environment element)
          ((filter source (and first second)).evaluate environment focus) ∧
        ((filter source (and first second)).evaluate environment focus).outcome =
          ((filter (filter source first) second).evaluate environment focus).outcome ∧
        environment.Retains (environment.elements input)
          (fun element => first.HoldsOf environment element ∨ second.HoldsOf environment element)
          ((filter source (or first second)).evaluate environment focus) ∧
        environment.Retains (environment.elements input)
          (fun element => ¬first.HoldsOf environment element)
          ((filter source (not first)).evaluate environment focus) ∧
        ∃ kept dropped,
          ((filter source first).evaluate environment focus).outcome =
            .ok (environment.array kept) ∧
          ((filter source (not first)).evaluate environment focus).outcome =
            .ok (environment.array dropped) ∧
          (kept ++ dropped).Perm (environment.elements input)) ∧
      (((filter source (and first second)).evaluate environment focus).Succeeds ↔
        ((filter (filter source first) second).evaluate environment focus).Succeeds) ∧
      ∀ error, ((filter source (not first)).evaluate environment focus).outcome = .error error ↔
        ((filter source first).evaluate environment focus).outcome = .error error := by
  refine ⟨?_, exists_congr fun _ => filter_and_iff arrays,
    (filter_not_agree environment source first focus).error_iff⟩
  intro input returned isArray total total'
  have byFirst := outcome_filter_of_succeeds first returned isArray total
  have bySecond := outcome_filter_of_succeeds second returned isArray total'
  have byAnd := outcome_filter_of_succeeds (and first second) returned isArray
    fun element member => succeeds_and.2 ⟨total element member, fun _ => total' element member⟩
  have byOr := outcome_filter_of_succeeds (or first second) returned isArray
    fun element member => succeeds_or (total element member) (total' element member)
  have byNot := outcome_filter_of_succeeds (not first) returned isArray
    fun element member => succeeds_not (total element member)
  refine ⟨Binding.retains_filter (fun _ _ => judges_iff_holdsOf) byFirst,
    Binding.retains_filter (fun _ _ => judges_iff_holdsOf) bySecond,
    Binding.retains_filter ?and byAnd, byAnd.trans ((filter_and_iff arrays).1 byAnd).symm,
    Binding.retains_filter ?or byOr, Binding.retains_filter ?not byNot, _, _, byFirst, byNot,
    ?split⟩
  case and =>
    intro element _
    rw [judges_and, Bool.and_eq_true, judges_iff_holdsOf, judges_iff_holdsOf]
  case or =>
    intro element member
    rw [judges_or (total element member), Bool.or_eq_true, judges_iff_holdsOf, judges_iff_holdsOf]
  case not =>
    intro element member
    rw [judges_not truth (total element member), ← judges_iff_holdsOf, Bool.not_eq_true',
      Bool.not_eq_true]
  case split =>
    have opposite := List.filter_congr fun element member =>
      judges_not truth (total element member)
    rw [opposite]
    exact List.filter_append_perm _ _

/-- The same by kinds, and as equations of lists. -/
theorem filter_algebra_of_kinds (environment : Environment V)
    (kinds : environment.toBinding.TellsKinds)
    (truth : ∀ flag, environment.isTruthy (environment.boolean flag) = flag)
    (source first second : Expr) (focus : V) :
    let run (predicate : Expr) := (filter source predicate).evaluate environment focus
    let holds (predicate : Expr) := environment.judges (predicate.evaluate environment)
    (∀ input, (source.evaluate environment focus).outcome = .ok input →
      environment.kindOf input = .array →
      (∀ element ∈ environment.elements input, (first.evaluate environment element).Succeeds) →
      (∀ element ∈ environment.elements input, (second.evaluate environment element).Succeeds) →
      let kept (passes : V → Bool) :=
        Except.ok (environment.array ((environment.elements input).filter passes))
      (run (and first second)).outcome =
          kept (fun element => holds first element && holds second element) ∧
        ((filter (filter source first) second).evaluate environment focus).outcome =
          (run (and first second)).outcome ∧
        (run (or first second)).outcome =
          kept (fun element => holds first element || holds second element) ∧
        (run (not first)).outcome = kept (fun element => !holds first element)) ∧
      ((run (and first second)).Succeeds ↔
        ((filter (filter source first) second).evaluate environment focus).Succeeds) ∧
      ∀ error, (run (not first)).outcome = .error error ↔ (run first).outcome = .error error := by
  intro run holds
  refine ⟨?_, exists_congr fun _ => filter_and_iff kinds.keepsArrays,
    (filter_not_agree environment source first focus).error_iff⟩
  intro input returned array total total' kept
  have filtered (predicate : Expr) (succeeds) : (run predicate).outcome = kept (holds predicate) :=
    outcome_filter_of_succeeds predicate returned (kinds.isArray_iff.2 array) succeeds
  have byAnd := filtered (and first second)
    fun element member => succeeds_and.2 ⟨total element member, fun _ => total' element member⟩
  have byOr := filtered (or first second)
    fun element member => succeeds_or (total element member) (total' element member)
  have byNot := filtered (not first) fun element member => succeeds_not (total element member)
  refine ⟨byAnd.trans ?and, ((filter_and_iff kinds.keepsArrays).1 byAnd).trans byAnd.symm,
    byOr.trans ?or, byNot.trans ?not⟩
  case and => exact congrArg kept (funext fun _ => judges_and)
  case or =>
    have either (element) (member : element ∈ environment.elements input) :
        holds (or first second) element = (holds first element || holds second element) :=
      judges_or (total element member)
    exact congrArg (Except.ok ∘ environment.array) (List.filter_congr either)
  case not =>
    have opposite (element) (member : element ∈ environment.elements input) :
        holds (not first) element = !holds first element :=
      judges_not truth (total element member)
    exact congrArg (Except.ok ∘ environment.array) (List.filter_congr opposite)

-- Some of the values are true, and one of these occurs twice.
def mixedValues : List Json :=
  [.ofMembers [("a", .ofNat 1)], .null, .ofNat 0, .ofMembers [("a", .ofNat 1)], .ofMembers [],
    .array []]

theorem filter_algebra_mixed :
    Json.binding.KeepsArrays ∧
      (∀ flag, Json.plainEnvironment.isTruthy (Json.plainEnvironment.boolean flag) = flag) ∧
      Json.plainEnvironment.Retains mixedValues
        (fun element => current.HoldsOf Json.plainEnvironment element ∧
          (field current "a").HoldsOf Json.plainEnvironment element)
        ((filter current (and current (field current "a"))).evaluate Json.plainEnvironment
          (.array mixedValues)) ∧
      ∃ kept dropped,
        ((filter current current).evaluate Json.plainEnvironment (.array mixedValues)).outcome =
          .ok (.array kept) ∧
        ((filter current (not current)).evaluate Json.plainEnvironment
          (.array mixedValues)).outcome = .ok (.array dropped) ∧
        (kept ++ dropped).Perm mixedValues := by
  have truth (flag : Bool) :
      Json.plainEnvironment.isTruthy (Json.plainEnvironment.boolean flag) = flag := rfl
  obtain ⟨parts, -, -⟩ := filter_algebra Json.plainEnvironment Json.keepsArrays truth current
    current (field current "a") (.array mixedValues)
  obtain ⟨-, -, both, -, -, -, split⟩ := parts (.array mixedValues) rfl rfl
    (fun element _ => ⟨element, rfl⟩) (fun element _ => ⟨_, rfl⟩)
  exact ⟨Json.keepsArrays, truth, both, split⟩

end Expr

end DocQuery
