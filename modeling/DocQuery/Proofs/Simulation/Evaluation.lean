import DocQuery.Proofs.Simulation.Calls

/-! Evaluation of corresponding expressions in similar environments.

A relation of expressions is closed if related expressions have one form, the same names and
bounds, and related parts. Evaluation then takes related values to related values, and fails alike.
-/

set_option autoImplicit false

namespace DocQuery

variable {V W : Type}

namespace Expr

/-- One layer of two expressions: the same form with the same names and bounds, where constants and
parts correspond. -/
inductive Layer (literals : Json → Json → Prop) (parts : Expr → Expr → Prop) :
    Expr → Expr → Prop where
  | current : Layer literals parts .current .current
  | identity : Layer literals parts .identity .identity
  | literal {value value' : Json} : literals value value' →
      Layer literals parts (.literal value) (.literal value')
  | field {source source' : Expr} (name : String) : parts source source' →
      Layer literals parts (.field source name) (.field source' name)
  | index {source source' : Expr} (position : Int64) : parts source source' →
      Layer literals parts (.index source position) (.index source' position)
  | slice {source source' : Expr} (start stop step : Option Int64) : parts source source' →
      Layer literals parts (.slice source start stop step) (.slice source' start stop step)
  | flattenList {source source' : Expr} : parts source source' →
      Layer literals parts (.flattenList source) (.flattenList source')
  | pipe {left left' right right' : Expr} : parts left left' → parts right right' →
      Layer literals parts (.pipe left right) (.pipe left' right')
  | sub {left left' right right' : Expr} : parts left left' → parts right right' →
      Layer literals parts (.sub left right) (.sub left' right')
  | listProjection {source source' body body' : Expr} : parts source source' →
      parts body body' →
      Layer literals parts (.listProjection source body) (.listProjection source' body')
  | objectProjection {source source' body body' : Expr} : parts source source' →
      parts body body' →
      Layer literals parts (.objectProjection source body) (.objectProjection source' body')
  | flattenProjection {source source' body body' : Expr} : parts source source' →
      parts body body' →
      Layer literals parts (.flattenProjection source body) (.flattenProjection source' body')
  | multiSelectList {items items' : List Expr} : List.Forall₂ parts items items' →
      Layer literals parts (.multiSelectList items) (.multiSelectList items')
  | multiSelectHash {entries entries' : List (String × Expr)} :
      List.Forall₂ (MemberRelated parts) entries entries' →
      Layer literals parts (.multiSelectHash entries) (.multiSelectHash entries')
  | filter {source source' predicate predicate' : Expr} : parts source source' →
      parts predicate predicate' →
      Layer literals parts (.filter source predicate) (.filter source' predicate')
  | comparison {left left' right right' : Expr} (operator : Comparator) : parts left left' →
      parts right right' →
      Layer literals parts (.comparison operator left right) (.comparison operator left' right')
  | and {left left' right right' : Expr} : parts left left' → parts right right' →
      Layer literals parts (.and left right) (.and left' right')
  | or {left left' right right' : Expr} : parts left left' → parts right right' →
      Layer literals parts (.or left right) (.or left' right')
  | not {operand operand' : Expr} : parts operand operand' →
      Layer literals parts (.not operand) (.not operand')
  | call {arguments arguments' : List Expr} (name : String) :
      List.Forall₂ parts arguments arguments' →
      Layer literals parts (.call name arguments) (.call name arguments')
  | reference {expression expression' : Expr} : parts expression expression' →
      Layer literals parts (.reference expression) (.reference expression')

/-- Related expressions share their outer layer, up to related constants and parts. -/
def Layered (literals : Json → Json → Prop) (expressions : Expr → Expr → Prop) : Prop :=
  ∀ expression expression', expressions expression expression' →
    Layer literals expressions expression expression'

theorem layered_eq {literals : Json → Json → Prop} (reflexive : ∀ value, literals value value) :
    Layered literals Eq := by
  rintro expression _ rfl
  have entries (members : List (String × Expr)) :
      List.Forall₂ (MemberRelated Eq) members members := by
    apply List.forall₂_same.2
    intro member _
    exact ⟨rfl, rfl⟩
  cases expression <;> constructor <;>
    first | rfl | exact reflexive _ | exact List.forall₂_refl _ | exact entries _

variable {literals : Json → Json → Prop} {expressions : Expr → Expr → Prop}

theorem Layer.mono {weaker : Expr → Expr → Prop} {expression expression' : Expr}
    (layer : Layer literals expressions expression expression')
    (implies : ∀ part part', expressions part part' → weaker part part') :
    Layer literals weaker expression expression' := by
  have parts {items items' : List Expr} (related : List.Forall₂ expressions items items') :
      List.Forall₂ weaker items items' :=
    related.imp implies
  have entries {items items' : List (String × Expr)}
      (related : List.Forall₂ (MemberRelated expressions) items items') :
      List.Forall₂ (MemberRelated weaker) items items' :=
    related.imp fun _ _ pair => ⟨pair.1, implies _ _ pair.2⟩
  cases layer <;> constructor <;> simp_all

theorem Layered.isProjecting (layered : Layered literals expressions) {expression : Expr} :
    ∀ {expression' : Expr}, expressions expression expression' →
      expression.isProjecting = expression'.isProjecting := by
  induction expression using childInduction with
  | step expression ih =>
    intro expression' corresponding
    cases layered _ _ corresponding with
    | @sub left left' right right' relatedLeft relatedRight =>
      have leftSame := ih left (by simp [children]) relatedLeft
      have rightSame := ih right (by simp [children]) relatedRight
      rw [Expr.isProjecting, Expr.isProjecting, leftSame, rightSame]
    | _ => rfl

end Expr

namespace Expr.Simulated

variable {relation : V → W → Prop} {first : Environment V} {second : Environment W}
  {source source' left left' right right' body body' : Expr}

theorem literal {value value' : Json}
    (constants : relation (first.ofJson value) (second.ofJson value')) :
    Simulated relation first second (.literal value) (.literal value') :=
  fun _ _ _ => .ok constants

theorem pipe (leftAgrees : Simulated relation first second left left')
    (rightAgrees : Simulated relation first second right right') :
    Simulated relation first second (.pipe left right) (.pipe left' right') := by
  intro focus focus' related
  rw [evaluate_pipe, evaluate_pipe]
  exact Run.agree_bind (leftAgrees focus focus' related) rightAgrees

section

variable (similar : Binding.Similar relation first.toBinding second.toBinding)

include similar

theorem field (name : String) (sourceAgrees : Simulated relation first second source source') :
    Simulated relation first second (.field source name) (.field source' name) := by
  intro focus focus' related
  rw [evaluate_field, evaluate_field]
  apply Run.agree_map (sourceAgrees focus focus' related)
  intro input input' relatedInput
  exact similar.field relatedInput name

theorem index (position : Int64)
    (sourceAgrees : Simulated relation first second source source') :
    Simulated relation first second (.index source position) (.index source' position) := by
  intro focus focus' related
  rw [evaluate_index, evaluate_index]
  apply Run.agree_map (sourceAgrees focus focus' related)
  intro input input' relatedInput
  exact similar.index relatedInput position

theorem slice (start stop step : Option Int64)
    (sourceAgrees : Simulated relation first second source source') :
    Simulated relation first second (.slice source start stop step)
      (.slice source' start stop step) := by
  intro focus focus' related
  rw [evaluate_slice, evaluate_slice]
  split
  · exact .error .zeroStep
  · apply Run.agree_map (sourceAgrees focus focus' related)
    intro input input' relatedInput
    exact similar.slice relatedInput start stop _

theorem flattenList (sourceAgrees : Simulated relation first second source source') :
    Simulated relation first second (.flattenList source) (.flattenList source') := by
  intro focus focus' related
  rw [evaluate_flattenList, evaluate_flattenList]
  apply Run.agree_map (sourceAgrees focus focus' related)
  intro input input' relatedInput
  exact similar.array (similar.flattened relatedInput)

theorem sub (sameMark : left.isProjecting = left'.isProjecting)
    (leftAgrees : Simulated relation first second left left')
    (rightAgrees : Simulated relation first second right right') :
    Simulated relation first second (.sub left right) (.sub left' right') := by
  intro focus focus' related
  rw [evaluate_sub, evaluate_sub]
  apply Run.agree_bind (leftAgrees focus focus' related)
  intro input input' relatedInput
  rw [sameMark, similar.isArray relatedInput]
  split
  · split
    · exact similar.project (similar.elements relatedInput) rightAgrees
    · exact Run.agree_pure relatedInput
  · exact rightAgrees input input' relatedInput

theorem listProjection (sourceAgrees : Simulated relation first second source source')
    (bodyAgrees : Simulated relation first second body body') :
    Simulated relation first second (.listProjection source body)
      (.listProjection source' body') := by
  intro focus focus' related
  rw [evaluate_listProjection, evaluate_listProjection]
  apply Run.agree_bind (sourceAgrees focus focus' related)
  intro input input' relatedInput
  rw [similar.isArray relatedInput]
  split
  · exact similar.project (similar.elements relatedInput) bodyAgrees
  · exact Run.agree_pure similar.null

theorem objectProjection
    (properties : ∀ {value : V} {value' : W}, relation value value' →
      List.Forall₂ relation (first.propertyValues value) (second.propertyValues value'))
    (sourceAgrees : Simulated relation first second source source')
    (bodyAgrees : Simulated relation first second body body') :
    Simulated relation first second (.objectProjection source body)
      (.objectProjection source' body') := by
  intro focus focus' related
  rw [evaluate_objectProjection, evaluate_objectProjection]
  apply Run.agree_bind (sourceAgrees focus focus' related)
  intro input input' relatedInput
  rw [similar.isObject relatedInput]
  split
  · exact similar.project (properties relatedInput) bodyAgrees
  · exact Run.agree_pure similar.null

theorem flattenProjection (sourceAgrees : Simulated relation first second source source')
    (bodyAgrees : Simulated relation first second body body') :
    Simulated relation first second (.flattenProjection source body)
      (.flattenProjection source' body') := by
  intro focus focus' related
  rw [evaluate_flattenProjection, evaluate_flattenProjection]
  apply Run.agree_bind (sourceAgrees focus focus' related)
  intro input input' relatedInput
  exact similar.project (similar.flattened relatedInput) bodyAgrees

theorem filter (sourceAgrees : Simulated relation first second source source')
    (predicateAgrees : Simulated relation first second body body') :
    Simulated relation first second (.filter source body) (.filter source' body') := by
  intro focus focus' related
  rw [evaluate_filter, evaluate_filter]
  apply Run.agree_bind (sourceAgrees focus focus' related)
  intro input input' relatedInput
  rw [similar.isArray relatedInput]
  split
  · exact similar.select (similar.elements relatedInput) predicateAgrees
  · exact Run.agree_pure similar.null

theorem comparison (operator : Comparator)
    (leftAgrees : Simulated relation first second left left')
    (rightAgrees : Simulated relation first second right right') :
    Simulated relation first second (.comparison operator left right)
      (.comparison operator left' right') := by
  intro focus focus' related
  rw [evaluate_comparison, evaluate_comparison]
  apply Run.agree_bind (leftAgrees focus focus' related)
  intro input input' relatedInput
  apply Run.agree_map (rightAgrees focus focus' related)
  intro other other' relatedOther
  exact similar.compared operator relatedInput relatedOther

theorem and (leftAgrees : Simulated relation first second left left')
    (rightAgrees : Simulated relation first second right right') :
    Simulated relation first second (.and left right) (.and left' right') := by
  intro focus focus' related
  rw [evaluate_and, evaluate_and]
  apply Run.agree_bind (leftAgrees focus focus' related)
  intro value value' relatedValue
  rw [similar.isTruthy relatedValue]
  split
  · exact rightAgrees focus focus' related
  · exact Run.agree_pure relatedValue

theorem or (leftAgrees : Simulated relation first second left left')
    (rightAgrees : Simulated relation first second right right') :
    Simulated relation first second (.or left right) (.or left' right') := by
  intro focus focus' related
  rw [evaluate_or, evaluate_or]
  apply Run.agree_bind (leftAgrees focus focus' related)
  intro value value' relatedValue
  rw [similar.isTruthy relatedValue]
  split
  · exact Run.agree_pure relatedValue
  · exact rightAgrees focus focus' related

theorem not (operandAgrees : Simulated relation first second source source') :
    Simulated relation first second (.not source) (.not source') := by
  intro focus focus' related
  rw [evaluate_not, evaluate_not]
  apply Run.agree_map (operandAgrees focus focus' related)
  intro value value' relatedValue
  rw [similar.isTruthy relatedValue]
  exact similar.boolean _

theorem reference (expression expression' : Expr) :
    Simulated relation first second (.reference expression) (.reference expression') :=
  fun _ _ _ => .ok similar.null

theorem multiSelectList {items items' : List Expr} {parts : Expr → Expr → Prop}
    (related : List.Forall₂ parts items items')
    (agree : ∀ item ∈ items, ∀ item', parts item item' →
      Simulated relation first second item item') :
    Simulated relation first second (.multiSelectList items) (.multiSelectList items') := by
  intro focus focus' relatedFocus
  rw [evaluate_multiSelectList, evaluate_multiSelectList, similar.isNull relatedFocus]
  split
  · exact Run.agree_pure similar.null
  refine Run.agree_map ?_ fun _ _ => similar.array
  apply Run.agree_mapM related
  intro item member item' corresponding
  exact agree item member item' corresponding focus focus' relatedFocus

theorem multiSelectHash {entries entries' : List (String × Expr)} {parts : Expr → Expr → Prop}
    (related : List.Forall₂ (MemberRelated parts) entries entries')
    (agree : ∀ entry ∈ entries, ∀ expression', parts entry.2 expression' →
      Simulated relation first second entry.2 expression') :
    Simulated relation first second (.multiSelectHash entries) (.multiSelectHash entries') := by
  intro focus focus' relatedFocus
  rw [evaluate_multiSelectHash, evaluate_multiSelectHash, similar.isNull relatedFocus]
  split
  · exact Run.agree_pure similar.null
  refine Run.agree_map ?_ fun _ _ => similar.object
  apply Run.agree_mapM related
  rintro entry member entry' ⟨sameKey, corresponding⟩
  apply Run.agree_map (agree entry member entry'.2 corresponding focus focus' relatedFocus)
  intro value value' relatedValue
  exact ⟨sameKey, relatedValue⟩

end

variable {literals : Json → Json → Prop} {expressions : Expr → Expr → Prop}

/-- An argument is related to its counterpart, and so are the expressions that references among
arguments hand over. -/
theorem argument {expression expression' : Expr}
    (layer : Layer literals expressions expression expression')
    (agrees : Simulated relation first second expression expression')
    (inner : ∀ part ∈ expression.children, ∀ part', expressions part part' →
      Simulated relation first second part part')
    {focus : V} {focus' : W} (related : relation focus focus') :
    Agree (Argument.Related relation fun given given' =>
        expressions given given' ∧ Simulated relation first second given given')
      (expression.argument first focus).outcome (expression'.argument second focus').outcome := by
  cases layer with
  | @reference part part' corresponding =>
    have partAgrees := inner part (by simp [children]) part' corresponding
    exact Run.agree_pure (.expression ⟨corresponding, partAgrees⟩)
  | _ => exact Run.agree_map (agrees focus focus' related) fun _ _ => .value

-- A reference hands over its part, which is a part of a part of the call.
theorem call (similar : Binding.Similar relation first.toBinding second.toBinding) {name : String}
    (functions : Environment.SimilarAt relation expressions first second name)
    {arguments arguments' : List Expr} (related : List.Forall₂ expressions arguments arguments')
    (agree : ∀ argument ∈ arguments, ∀ argument', expressions argument argument' →
      ∀ focus focus', relation focus focus' →
        Agree (Argument.Related relation fun given given' =>
            expressions given given' ∧ Simulated relation first second given given')
          (argument.argument first focus).outcome (argument'.argument second focus').outcome) :
    Simulated relation first second (.call name arguments) (.call name arguments') := by
  intro focus focus' relatedFocus
  rw [evaluate_call, evaluate_call]
  apply Run.agree_bind
  · apply Run.agree_mapM related
    intro argument member argument' corresponding
    exact agree argument member argument' corresponding focus focus' relatedFocus
  intro given given' relatedGiven
  apply functions.apply similar
  · exact relatedGiven.imp fun _ _ pair => pair.mono fun _ _ both => both.1
  · apply answerRelatedly_of_simulated
    exact relatedGiven.imp fun _ _ pair => pair.mono fun _ _ both => both.2

end Expr.Simulated

variable {relation : V → W → Prop} {first : Environment V} {second : Environment W}
  {literals : Json → Json → Prop} {expressions : Expr → Expr → Prop}

/-- Related expressions agree if the operations that they use and the functions that they call
respect the relation of values. -/
theorem Expr.Layered.simulated (layered : Layered literals expressions)
    (binding : Binding.Similar relation first.toBinding second.toBinding)
    (constants : ∀ value value', literals value value' →
      relation (first.ofJson value) (second.ofJson value'))
    {expression expression' : Expr} (corresponding : expressions expression expression')
    (properties : expression.Lacks .objectProjection ∨
      ∀ {value : V} {value' : W}, relation value value' →
        List.Forall₂ relation (first.propertyValues value) (second.propertyValues value'))
    (functions : ∀ name arguments, Within (.call name arguments) expression →
      Environment.SimilarAt relation expressions first second name) :
    expression.Simulated relation first second expression' := by
  induction expression using partInduction generalizing expression' with
  | step expression ih =>
    have parts {child part part' : Expr} (member : child ∈ expression.children)
        (within : Within part child) (related : expressions part part') :
        part.Simulated relation first second part' := by
      have inside {other : Expr} (inner : Within other part) : Within other expression :=
        .child member (inner.trans within)
      apply ih child member part within related
      · exact properties.imp_left fun lacks other inner => lacks other (inside inner)
      · exact fun name arguments inner => functions name arguments (inside inner)
    have child {part part' : Expr} (member : part ∈ expression.children)
        (related : expressions part part') : part.Simulated relation first second part' :=
      parts member .self related
    cases layered _ _ corresponding with
    | current | identity => exact fun _ _ related => .ok related
    | literal related => exact .literal (constants _ _ related)
    | reference _ => exact .reference binding _ _
    | field name source => exact .field binding name (child (by simp [children]) source)
    | index position source =>
      exact .index binding position (child (by simp [children]) source)
    | slice start stop step source =>
      exact .slice binding start stop step (child (by simp [children]) source)
    | flattenList source => exact .flattenList binding (child (by simp [children]) source)
    | not operand => exact .not binding (child (by simp [children]) operand)
    | pipe left right =>
      exact .pipe (child (by simp [children]) left) (child (by simp [children]) right)
    | sub left right =>
      exact .sub binding (layered.isProjecting left) (child (by simp [children]) left)
        (child (by simp [children]) right)
    | listProjection source body =>
      exact .listProjection binding (child (by simp [children]) source)
        (child (by simp [children]) body)
    | objectProjection source body =>
      rcases properties with lacks | values
      · exact absurd rfl lacks.self
      · exact .objectProjection binding values (child (by simp [children]) source)
          (child (by simp [children]) body)
    | flattenProjection source body =>
      exact .flattenProjection binding (child (by simp [children]) source)
        (child (by simp [children]) body)
    | filter source predicate =>
      exact .filter binding (child (by simp [children]) source)
        (child (by simp [children]) predicate)
    | comparison operator left right =>
      exact .comparison binding operator (child (by simp [children]) left)
        (child (by simp [children]) right)
    | and left right =>
      exact .and binding (child (by simp [children]) left)
        (child (by simp [children]) right)
    | or left right =>
      exact .or binding (child (by simp [children]) left)
        (child (by simp [children]) right)
    | multiSelectList related =>
      exact .multiSelectList binding related fun item member item' => child member
    | multiSelectHash related =>
      exact .multiSelectHash binding related fun entry member _ =>
        child (List.mem_map_of_mem member)
    | call name related =>
      apply Simulated.call binding (functions name _ .self) related
      intro argument member argument' given focus focus' relatedFocus
      apply Simulated.argument (layered _ _ given) (child member given) ?_ relatedFocus
      intro part inner part' partGiven
      exact parts member (.of_mem inner) partGiven

end DocQuery
