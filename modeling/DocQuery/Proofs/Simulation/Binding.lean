import DocQuery.Eval
import DocQuery.Proofs.Members
import DocQuery.Proofs.Run

/-! Two bindings whose operations respect a relation of their values.

Evaluation sees values through few operations. Where these respect a relation, so does every step
that evaluation makes of them.
-/

set_option autoImplicit false

namespace DocQuery

variable {V W : Type}

/-- The operations that evaluation uses respect a relation. The values of an object's properties
stand apart, for only one form of expression asks for them in their order. -/
structure Binding.Similar (relation : V → W → Prop) (first : Binding V) (second : Binding W) :
    Prop where
  kindOf {value : V} {value' : W} : relation value value' →
    first.kindOf value = second.kindOf value'
  elements {value : V} {value' : W} : relation value value' →
    List.Forall₂ relation (first.elements value) (second.elements value')
  property {value : V} {value' : W} : relation value value' → ∀ name,
    relation (first.property value name) (second.property value' name)
  null : relation first.null second.null
  boolean (flag : Bool) : relation (first.boolean flag) (second.boolean flag)
  array {values : List V} {values' : List W} : List.Forall₂ relation values values' →
    relation (first.array values) (second.array values')
  object {members : List (String × V)} {members' : List (String × W)} :
    List.Forall₂ (MemberRelated relation) members members' →
    relation (first.object members) (second.object members')
  equals {left right : V} {left' right' : W} : relation left left' → relation right right' →
    first.equals left right = second.equals left' right'
  isArray {value : V} {value' : W} : relation value value' →
    first.isArray value = second.isArray value'
  isObject {value : V} {value' : W} : relation value value' →
    first.isObject value = second.isObject value'
  isNull {value : V} {value' : W} : relation value value' →
    first.isNull value = second.isNull value'
  kindName {value : V} {value' : W} : relation value value' →
    first.kindName value = second.kindName value'
  arrayLength {value : V} {value' : W} : relation value value' →
    first.arrayLength value = second.arrayLength value'
  isTruthy {value : V} {value' : W} : relation value value' →
    first.isTruthy value = second.isTruthy value'
  elementAt {value : V} {value' : W} : relation value value' → ∀ position,
    relation (first.elementAt value position) (second.elementAt value' position)
  compare? {left right : V} {left' right' : W} : relation left left' → relation right right' →
    first.compare? left right = second.compare? left' right'

namespace Binding.Similar

variable {relation : V → W → Prop} {first : Binding V} {second : Binding W}
  (similar : Binding.Similar relation first second) {value : V} {value' : W}
  (related : relation value value')

include similar related

theorem field (name : String) : relation (first.field value name) (second.field value' name) := by
  rw [Binding.field, Binding.field, similar.isObject related]
  split
  · exact similar.property related name
  · exact similar.null

theorem index (position : Int64) :
    relation (first.index value position) (second.index value' position) := by
  rw [Binding.index, Binding.index, similar.isArray related, similar.arrayLength related]
  split
  · cases Slice.resolveIndex position (second.arrayLength value') with
    | none => exact similar.null
    | some resolved => exact similar.elementAt related resolved
  · exact similar.null

-- The walk is the same; only the elements that it picks differ.
theorem slice (start stop : Option Int64) (step : Int64) :
    relation (first.slice value start stop step) (second.slice value' start stop step) := by
  have elements := similar.elements related
  rw [Binding.slice, Binding.slice, similar.isArray related]
  split
  · apply similar.array
    rw [Slice.select, Slice.select, elements.length_eq]
    refine List.rel_filterMap (R := Eq) ?_ (List.forall₂_refl _)
    rintro position _ rfl
    exact forall₂_getElem? elements _
  · exact similar.null

theorem flattened :
    List.Forall₂ relation (first.flattened value) (second.flattened value') := by
  refine List.rel_flatMap (similar.elements related) ?_
  intro element element' relatedElement
  simp only [similar.isArray relatedElement]
  split
  · exact similar.elements relatedElement
  · exact .cons relatedElement .nil

omit related in
theorem order? {left right : V} {left' right' : W} (relatedLeft : relation left left')
    (relatedRight : relation right right') :
    first.order? left right = second.order? left' right' := by
  simp only [Binding.order?]
  rw [similar.kindOf relatedLeft, similar.kindOf relatedRight,
    similar.compare? relatedLeft relatedRight]

omit related in
theorem compared (operator : Comparator) {left right : V} {left' right' : W}
    (relatedLeft : relation left left') (relatedRight : relation right right') :
    relation (first.compared operator left right) (second.compared operator left' right') := by
  rw [Binding.compared, Binding.compared, similar.order? relatedLeft relatedRight,
    similar.equals relatedLeft relatedRight]
  split
  · exact similar.boolean _
  · exact similar.null

omit related in
-- Related results are null together, so the same positions are dropped.
theorem project {body : V → Run V V} {body' : W → Run W W} {elements : List V}
    {elements' : List W} (related : List.Forall₂ relation elements elements')
    (agree : ∀ element element', relation element element' →
      Agree relation (body element).outcome (body' element').outcome) :
    Agree relation (first.project body elements).outcome
      (second.project body' elements').outcome := by
  apply Run.agree_bind (Run.agree_mapM related fun element _ => agree element)
  intro results results' relatedResults
  apply Run.agree_pure
  apply similar.array
  refine List.rel_filter ?_ relatedResults
  intro result result' relatedResult
  simp only [similar.isNull relatedResult]

omit related in
-- The marks agree, so the same positions are kept.
theorem select {predicate : V → Run V V} {predicate' : W → Run W W} {elements : List V}
    {elements' : List W} (related : List.Forall₂ relation elements elements')
    (agree : ∀ element element', relation element element' →
      Agree relation (predicate element).outcome (predicate' element').outcome) :
    Agree relation (first.select predicate elements).outcome
      (second.select predicate' elements').outcome := by
  let marked (element : V × Bool) (element' : W × Bool) : Prop :=
    relation element.1 element'.1 ∧ element.2 = element'.2
  refine Run.agree_bind (?_ : Agree (List.Forall₂ marked) _ _) ?_
  · apply Run.agree_mapM related
    intro element _ element' relatedElement
    apply Run.agree_bind (agree element element' relatedElement)
    intro verdict verdict' relatedVerdict
    exact Run.agree_pure ⟨relatedElement, similar.isTruthy relatedVerdict⟩
  intro results results' relatedResults
  apply Run.agree_pure
  apply similar.array
  refine List.rel_map (fun _ _ both => both.1) (List.rel_filter ?_ relatedResults)
  intro result result' both
  simp only [both.2]

end Binding.Similar

end DocQuery
