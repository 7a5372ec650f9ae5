import DocQuery.Proofs.Eval.Calls

/-! Conditions on values that evaluation keeps.

If the operations that evaluation uses keep a condition, and the constants of an expression satisfy
it, then so does every value that the expression gives for a current value that satisfies it.
-/

set_option autoImplicit false

namespace DocQuery

variable {V α β : Type}

namespace Run

theorem Returns.map {before : α → Prop} {after : β → Prop} {run : Run V α} {change : α → β}
    (returns : run.Returns before) (kept : ∀ value, before value → after (change value)) :
    (change <$> run).Returns after := by
  rw [← bind_pure_comp]
  exact returns.bind fun value satisfied => .pure (kept value satisfied)

theorem Returns.mapM {post : β → Prop} {body : α → Run V β} {items : List α}
    (each : ∀ item ∈ items, (body item).Returns post) :
    (items.mapM body).Returns fun results => ∀ result ∈ results, post result := by
  induction items with
  | nil => exact .pure (List.forall_mem_nil _)
  | cons item rest ih =>
    rw [List.mapM_cons]
    refine (each item List.mem_cons_self).bind fun result satisfied => ?_
    have later := ih fun other member => each other (List.mem_cons_of_mem _ member)
    refine later.bind fun results others => ?_
    exact .pure (List.forall_mem_cons.2 ⟨satisfied, others⟩)

end Run

/-- The operations that evaluation uses keep a condition on values. An object satisfies it if its
members do, as long as their names are of certain ones. -/
structure Binding.Keeps (condition : V → Prop) (names : String → Prop) (binding : Binding V) :
    Prop where
  elements {value : V} : condition value → ∀ element ∈ binding.elements value, condition element
  property {value : V} : condition value → ∀ name, condition (binding.property value name)
  propertyValues {value : V} : condition value →
    ∀ part ∈ binding.propertyValues value, condition part
  elementAt {value : V} : condition value → ∀ position, condition (binding.elementAt value position)
  null : condition binding.null
  boolean (flag : Bool) : condition (binding.boolean flag)
  array {values : List V} : (∀ value ∈ values, condition value) → condition (binding.array values)
  object {members : List (String × V)} :
    (∀ member ∈ members, names member.1 ∧ condition member.2) → condition (binding.object members)

namespace Binding.Keeps

variable {condition : V → Prop} {names : String → Prop} {binding : Binding V}
  (keeps : Binding.Keeps condition names binding)

include keeps

theorem field {value : V} (holds : condition value) (name : String) :
    condition (binding.field value name) := by
  rw [Binding.field]
  split
  · exact keeps.property holds name
  · exact keeps.null

theorem index {value : V} (holds : condition value) (position : Int64) :
    condition (binding.index value position) := by
  rw [Binding.index]
  split
  · split
    · exact keeps.elementAt holds _
    · exact keeps.null
  · exact keeps.null

-- Whatever the walk over the positions is, it picks elements.
theorem slice {value : V} (holds : condition value) (start stop : Option Int64) (step : Int64) :
    condition (binding.slice value start stop step) := by
  rw [Binding.slice]
  split
  · apply keeps.array
    intro element selected
    obtain ⟨position, -, found⟩ := List.mem_filterMap.1 selected
    exact keeps.elements holds element (List.mem_of_getElem? found)
  · exact keeps.null

theorem flattened {value : V} (holds : condition value) :
    ∀ part ∈ binding.flattened value, condition part := by
  intro part member
  obtain ⟨element, inside, opened⟩ := List.mem_flatMap.1 member
  have elementHolds := keeps.elements holds element inside
  split at opened
  · exact keeps.elements elementHolds part opened
  · rwa [List.mem_singleton.1 opened]

theorem compared (operator : Comparator) (first second : V) :
    condition (binding.compared operator first second) := by
  rw [Binding.compared]
  split
  · exact keeps.boolean _
  · exact keeps.null

theorem project {body : V → Run V V} {elements : List V}
    (each : ∀ element ∈ elements, (body element).Returns condition) :
    (binding.project body elements).Returns condition := by
  rw [Binding.project]
  refine (Run.Returns.mapM each).bind fun results satisfied => ?_
  apply Run.Returns.pure
  apply keeps.array
  intro result kept
  exact satisfied result (List.mem_of_mem_filter kept)

theorem select {predicate : V → Run V V} {elements : List V}
    (each : ∀ element ∈ elements, condition element) :
    (binding.select predicate elements).Returns condition := by
  have marks : (elements.mapM fun element => do
        let verdict ← predicate element
        pure (element, binding.isTruthy verdict)).Returns
      fun (marked : List (V × Bool)) => ∀ result ∈ marked, condition result.1 := by
    apply Run.Returns.mapM
    intro element member
    exact .last fun _ => .pure (each element member)
  rw [Binding.select]
  refine marks.bind fun marked satisfied => ?_
  apply Run.Returns.pure
  apply keeps.array
  intro element kept
  obtain ⟨result, selected, rfl⟩ := List.mem_map.1 kept
  exact satisfied result (List.mem_of_mem_filter selected)

end Binding.Keeps

namespace Expr

variable {condition : V → Prop} {names : String → Prop} {environment : Environment V}

/-- An expression keeps a condition that the operations keep, if its constants satisfy it, its own
keys are of the right names, and its calls keep it, given that all within their arguments does. -/
theorem returns_of_keeps (keeps : Binding.Keeps condition names environment.toBinding)
    (expression : Expr)
    (constants : ∀ value, Within (.literal value) expression → condition (environment.ofJson value))
    (keys : ∀ entries, Within (.multiSelectHash entries) expression →
      ∀ entry ∈ entries, names entry.1)
    (calls : ∀ name arguments, Within (.call name arguments) expression →
      (∀ argument ∈ arguments, ∀ part, Within part argument → ∀ input, condition input →
        (part.evaluate environment input).Returns condition) →
      ∀ focus, condition focus →
        ((call name arguments).evaluate environment focus).Returns condition)
    {focus : V} (holds : condition focus) :
    (expression.evaluate environment focus).Returns condition := by
  induction expression using partInduction generalizing focus with
  | step expression ih =>
    have inner {child : Expr} (member : child ∈ expression.children) (part : Expr)
        (within : Within part child) (input : V) (inputHolds : condition input) :
        (part.evaluate environment input).Returns condition := by
      apply ih child member part within
      · intro value deeper
        exact constants value (.child member (deeper.trans within))
      · intro entries deeper
        exact keys entries (.child member (deeper.trans within))
      · intro name arguments deeper
        exact calls name arguments (.child member (deeper.trans within))
      · exact inputHolds
    have part {child : Expr} (member : child ∈ expression.children) {input : V}
        (inputHolds : condition input) : (child.evaluate environment input).Returns condition :=
      inner member child .self input inputHolds
    cases expression with
    | current | identity => exact .pure holds
    | literal value => exact .pure (constants value .self)
    | reference expression => exact .pure keeps.null
    | field source name =>
      rw [evaluate_field]
      exact (part (by simp [children]) holds).map fun _ inputHolds => keeps.field inputHolds name
    | index source position =>
      rw [evaluate_index]
      exact (part (by simp [children]) holds).map fun _ inputHolds =>
        keeps.index inputHolds position
    | slice source start stop step =>
      rw [evaluate_slice]
      split
      · exact .fail _
      · exact (part (by simp [children]) holds).map fun _ inputHolds =>
          keeps.slice inputHolds start stop _
    | flattenList source =>
      rw [evaluate_flattenList]
      exact (part (by simp [children]) holds).map fun _ inputHolds =>
        keeps.array (keeps.flattened inputHolds)
    | pipe left right =>
      rw [evaluate_pipe]
      exact (part (by simp [children]) holds).bind fun _ => part (by simp [children])
    | sub left right =>
      rw [evaluate_sub]
      refine (part (by simp [children]) holds).bind fun input inputHolds => ?_
      split
      · split
        · exact keeps.project fun element member =>
            part (by simp [children]) (keeps.elements inputHolds element member)
        · exact .pure inputHolds
      · exact part (by simp [children]) inputHolds
    | listProjection source body =>
      rw [evaluate_listProjection]
      refine (part (by simp [children]) holds).bind fun input inputHolds => ?_
      split
      · exact keeps.project fun element member =>
          part (by simp [children]) (keeps.elements inputHolds element member)
      · exact .pure keeps.null
    | objectProjection source body =>
      rw [evaluate_objectProjection]
      refine (part (by simp [children]) holds).bind fun input inputHolds => ?_
      split
      · exact keeps.project fun element member =>
          part (by simp [children]) (keeps.propertyValues inputHolds element member)
      · exact .pure keeps.null
    | flattenProjection source body =>
      rw [evaluate_flattenProjection]
      refine (part (by simp [children]) holds).bind fun input inputHolds => ?_
      exact keeps.project fun element member =>
        part (by simp [children]) (keeps.flattened inputHolds element member)
    | filter source predicate =>
      rw [evaluate_filter]
      refine (part (by simp [children]) holds).bind fun input inputHolds => ?_
      split
      · exact keeps.select (keeps.elements inputHolds)
      · exact .pure keeps.null
    | multiSelectList items =>
      rw [evaluate_multiSelectList]
      split
      · exact .pure keeps.null
      · have values : (items.mapM fun (item : Expr) => item.evaluate environment focus).Returns
            fun values => ∀ value ∈ values, condition value :=
          Run.Returns.mapM fun item member => part member holds
        exact values.map fun _ => keeps.array
    | multiSelectHash entries =>
      rw [evaluate_multiSelectHash]
      split
      · exact .pure keeps.null
      · have members : (entries.mapM fun (entry : String × Expr) =>
              (entry.1, ·) <$> entry.2.evaluate environment focus).Returns
            fun (members : List (String × V)) =>
              ∀ member ∈ members, names member.1 ∧ condition member.2 := by
          apply Run.Returns.mapM
          intro entry member
          refine (part (List.mem_map_of_mem member) holds).map fun value valueHolds => ?_
          exact ⟨keys entries .self entry member, valueHolds⟩
        exact members.map fun _ => keeps.object
    | comparison operator left right =>
      rw [evaluate_comparison]
      refine .last fun first => ?_
      exact (part (by simp [children]) holds).map fun second _ =>
        keeps.compared operator first second
    | and left right =>
      rw [evaluate_and]
      refine (part (by simp [children]) holds).bind fun value valueHolds => ?_
      split
      · exact part (by simp [children]) holds
      · exact .pure valueHolds
    | or left right =>
      rw [evaluate_or]
      refine (part (by simp [children]) holds).bind fun value valueHolds => ?_
      split
      · exact .pure valueHolds
      · exact part (by simp [children]) holds
    | not operand =>
      rw [evaluate_not]
      exact (part (by simp [children]) holds).map fun _ _ => keeps.boolean _
    | call name arguments => exact calls name arguments .self (fun _ => inner) focus holds

end Expr

end DocQuery
