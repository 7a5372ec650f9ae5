import DocQuery.Proofs.Binding.Symmetry

/-! When deep equality is transitive.

Dates are compared by their numbers if they have an order, and by their texts if not. A date that
has neither a number nor a text is equal to every date that has no text, and stands between dates
that differ. All else that could go wrong is a name that the value in the middle repeats.
-/

set_option autoImplicit false

namespace DocQuery.Accessors

variable {V : Type} {accessors : Accessors V} {grounded : accessors.Grounded}

/-- If the value is a date, it can be read by a number or by a text. -/
def HasDate (accessors : Accessors V) (value : V) : Prop :=
  accessors.kindOf value = .date →
    accessors.number? value ≠ none ∨ accessors.string? value ≠ none

/-- A date that can be read by a number has an order with others of its kind, and no text. -/
def DatesByNumber (accessors : Accessors V) : Prop :=
  ∀ value number, accessors.kindOf value = .date → accessors.number? value = some number →
    number.isNaN = false ∧ accessors.string? value = none

theorem forall₂_trans {relation : V → V → Prop} {firsts middles lasts : List V}
    (related : List.Forall₂ relation firsts middles)
    (related' : List.Forall₂ relation middles lasts)
    (trans : ∀ middle ∈ middles, ∀ first last, relation first middle → relation middle last →
      relation first last) : List.Forall₂ relation firsts lasts := by
  induction related generalizing lasts with
  | nil =>
    cases related'
    exact .nil
  | cons head _ ih =>
    cases related' with
    | cons head' tail' =>
      obtain ⟨step, rest⟩ := List.forall_mem_cons.1 trans
      exact .cons (step _ _ head head') (ih tail' rest)

theorem deepEquals_number_iff {first second : V}
    (left : accessors.kindOf first = .number) (right : accessors.kindOf second = .number) :
    accessors.deepEquals grounded accessors.compare? first second = true ↔
      ∃ x y, accessors.number? first = some x ∧ accessors.number? second = some y ∧
        x.equal y = true := by
  rw [deepEquals_number left right]
  cases found : accessors.number? first <;> cases found' : accessors.number? second <;>
    simp [compare?, left, right, found, found', Binary64.equal]

theorem compare?_dates {first second : V} {x y : Binary64}
    (left : accessors.kindOf first = .date) (right : accessors.kindOf second = .date)
    (found : accessors.number? first = some x) (found' : accessors.number? second = some y) :
    accessors.compare? first second = x.compare? y := by
  simp [compare?, left, right, found, found']

/-- Both dates have numbers, which are equal, or not both have, and their texts are the same. -/
def SameDate (accessors : Accessors V) (first second : V) : Prop :=
  (∃ x y, accessors.number? first = some x ∧ accessors.number? second = some y ∧
    x.equal y = true) ∨
  (accessors.number? first = none ∨ accessors.number? second = none) ∧
    accessors.string? first = accessors.string? second

theorem deepEquals_date_iff (byNumber : accessors.DatesByNumber) {first second : V}
    (left : accessors.kindOf first = .date) (right : accessors.kindOf second = .date) :
    accessors.deepEquals grounded accessors.compare? first second = true ↔
      accessors.SameDate first second := by
  rw [deepEquals_date left right]
  cases found : accessors.number? first with
  | none => simp [compare?, SameDate, left, right, found]
  | some x =>
    cases found' : accessors.number? second with
    | none => simp [compare?, SameDate, left, right, found, found']
    | some y =>
      have number := (byNumber first x left found).1
      have number' := (byNumber second y right found').1
      rw [compare?_dates left right found found']
      simp [SameDate, found, found', Binary64.equal, Binary64.compare?, number, number']

-- If the date in the middle has no text, neither have the others. If it has one, then so have the
-- others, which therefore have no number.
theorem SameDate.trans (byNumber : accessors.DatesByNumber) {first middle last : V}
    (left : accessors.kindOf first = .date) (between : accessors.kindOf middle = .date)
    (right : accessors.kindOf last = .date) (dated : accessors.HasDate middle)
    (same : accessors.SameDate first middle) (same' : accessors.SameDate middle last) :
    accessors.SameDate first last := by
  cases found : accessors.number? middle with
  | some y =>
    have textless := (byNumber middle y between found).2
    have firstTextless : accessors.string? first = none := by
      obtain ⟨x, _, number, -, -⟩ | ⟨-, text⟩ := same
      · exact (byNumber first x left number).2
      · exact text.trans textless
    have lastTextless : accessors.string? last = none := by
      obtain ⟨_, z, -, number, -⟩ | ⟨-, text⟩ := same'
      · exact (byNumber last z right number).2
      · exact text.symm.trans textless
    cases number : accessors.number? first with
    | none => exact .inr ⟨.inl number, firstTextless.trans lastTextless.symm⟩
    | some x =>
      cases number' : accessors.number? last with
      | none => exact .inr ⟨.inr number', firstTextless.trans lastTextless.symm⟩
      | some z =>
        obtain ⟨_, _, known, known', equal⟩ := same.resolve_right (by simp [number, found])
        cases known.symm.trans number
        cases known'.symm.trans found
        obtain ⟨_, _, known, known', equal'⟩ := same'.resolve_right (by simp [number', found])
        cases known.symm.trans found
        cases known'.symm.trans number'
        exact .inl ⟨x, z, number, number', Binary64.equal_trans equal equal'⟩
  | none =>
    have text := (same.resolve_left (by simp [found])).2
    have text' := (same'.resolve_left (by simp [found])).2
    have textual := (dated between).resolve_left (by simp [found])
    refine .inr ⟨.inl ?_, text.trans text'⟩
    cases number : accessors.number? first with
    | none => rfl
    | some x => exact absurd (text.symm.trans (byNumber first x left number).2) textual

theorem deepEquals_trans (byNumber : accessors.DatesByNumber) {first middle last : V}
    (distinct : accessors.Throughout accessors.HasDistinctNames middle)
    (dated : accessors.Throughout accessors.HasDate middle)
    (same : accessors.deepEquals grounded accessors.compare? first middle = true)
    (same' : accessors.deepEquals grounded accessors.compare? middle last = true) :
    accessors.deepEquals grounded accessors.compare? first last = true := by
  induction middle using groundedInduction grounded generalizing first last with
  | step middle elementsTrans propertiesTrans =>
    obtain ⟨names, elementsDistinct, propertiesDistinct⟩ := throughout_iff.1 distinct
    obtain ⟨date, elementsDated, propertiesDated⟩ := throughout_iff.1 dated
    have kinds := kindOf_of_deepEquals same
    have kinds' := kindOf_of_deepEquals same'
    cases kind : accessors.kindOf middle with
    | null => exact deepEquals_null (kinds.trans kind) (kinds'.symm.trans kind)
    | boolean =>
      have left := kinds.trans kind
      have right := kinds'.symm.trans kind
      rw [deepEquals_boolean left kind, beq_iff_eq] at same
      rw [deepEquals_boolean kind right, beq_iff_eq] at same'
      rw [deepEquals_boolean left right, beq_iff_eq, same, same']
    | string =>
      have left := kinds.trans kind
      have right := kinds'.symm.trans kind
      rw [deepEquals_string left kind, beq_iff_eq] at same
      rw [deepEquals_string kind right, beq_iff_eq] at same'
      rw [deepEquals_string left right, beq_iff_eq, same, same']
    | number =>
      have left := kinds.trans kind
      have right := kinds'.symm.trans kind
      obtain ⟨x, y, found, between, equal⟩ := (deepEquals_number_iff left kind).1 same
      obtain ⟨y', z, between', found', equal'⟩ := (deepEquals_number_iff kind right).1 same'
      cases between.symm.trans between'
      exact (deepEquals_number_iff left right).2
        ⟨x, z, found, found', Binary64.equal_trans equal equal'⟩
    | date =>
      have left := kinds.trans kind
      have right := kinds'.symm.trans kind
      rw [deepEquals_date_iff byNumber left kind] at same
      rw [deepEquals_date_iff byNumber kind right] at same'
      exact (deepEquals_date_iff byNumber left right).2
        (.trans byNumber left kind right (date) same same')
    | array =>
      have left := kinds.trans kind
      have right := kinds'.symm.trans kind
      rw [deepEquals_array left kind] at same
      rw [deepEquals_array kind right] at same'
      rw [deepEquals_array left right]
      apply forall₂_trans same same'
      intro element member first last
      exact elementsTrans element member (elementsDistinct kind element member)
        (elementsDated kind element member)
    | object =>
      have left := kinds.trans kind
      have right := kinds'.symm.trans kind
      obtain ⟨length, known⟩ := (deepEquals_object left kind).1 same
      obtain ⟨length', known'⟩ := (deepEquals_object kind right).1 same'
      rw [eraseDups_of_nodup (names kind)] at length
      refine (deepEquals_object left right).2 ⟨length.trans length', fun name member => ?_⟩
      obtain ⟨between, equal⟩ := known name member
      obtain ⟨member', equal'⟩ := known' name between
      exact ⟨member', propertiesTrans name between (propertiesDistinct kind name between)
        (propertiesDated kind name between) equal equal'⟩

end DocQuery.Accessors
