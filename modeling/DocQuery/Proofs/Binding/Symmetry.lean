import DocQuery.Doc.Binding
import DocQuery.Proofs.Binding.Equality
import DocQuery.Proofs.Json.Number
import DocQuery.Proofs.Members

/-! When deep equality is reflexive and symmetric.

The names of the first object are counted with their repetitions, and those of the second without.
An object that repeats a name is therefore never equal to itself, and never equal to another value
both ways. Without such objects deep equality is symmetric, and reflexive but for numbers that
cannot be compared.
-/

set_option autoImplicit false

namespace DocQuery

namespace Accessors

variable {V : Type} {accessors : Accessors V} {grounded : accessors.Grounded}

-- The parts of a value that deep equality descends to.
inductive Inside (accessors : Accessors V) : V → V → Prop where
  | self {value : V} : Inside accessors value value
  | element {part element value : V} : accessors.kindOf value = .array →
      element ∈ accessors.elements value → Inside accessors part element →
      Inside accessors part value
  | property {part value : V} {name : String} : accessors.kindOf value = .object →
      name ∈ accessors.propertyNames value →
      Inside accessors part (accessors.property value name) → Inside accessors part value

/-- A condition holds of a value and of all parts that deep equality descends to. -/
def Throughout (accessors : Accessors V) (condition : V → Prop) (value : V) : Prop :=
  ∀ part, accessors.Inside part value → condition part

theorem throughout_iff {condition : V → Prop} {value : V} :
    accessors.Throughout condition value ↔ condition value ∧
      (accessors.kindOf value = .array →
        ∀ element ∈ accessors.elements value, accessors.Throughout condition element) ∧
      (accessors.kindOf value = .object → ∀ name ∈ accessors.propertyNames value,
        accessors.Throughout condition (accessors.property value name)) := by
  constructor
  · intro satisfied
    refine ⟨satisfied value .self, ?_, ?_⟩
    · exact fun kind element member part inside => satisfied part (.element kind member inside)
    · exact fun kind name member part inside => satisfied part (.property kind member inside)
  · rintro ⟨outer, elements, properties⟩ part inside
    cases inside with
    | self => exact outer
    | element kind member deeper => exact elements kind _ member part deeper
    | property kind member deeper => exact properties kind _ member part deeper

/-- If the value is an object, it does not repeat a name. -/
def HasDistinctNames (accessors : Accessors V) (value : V) : Prop :=
  accessors.kindOf value = .object → (accessors.propertyNames value).Nodup

/-- If the value is a number, it can be read as one. -/
def HasNumber (accessors : Accessors V) (value : V) : Prop :=
  accessors.kindOf value = .number →
    ∃ number, accessors.number? value = some number ∧ number.isNaN = false

/-- What holds of a value whenever it holds of its elements and properties holds of every value. -/
@[elab_as_elim] theorem groundedInduction {motive : V → Prop} (grounded : accessors.Grounded)
    (step : ∀ value : V, (∀ element ∈ accessors.elements value, motive element) →
      (∀ name ∈ accessors.propertyNames value, motive (accessors.property value name)) →
        motive value) (value : V) : motive value := by
  refine grounded.induction value fun value ih => step value ?_ ?_
  · exact fun element member => ih element (.element member)
  · exact fun name member => ih _ (.property member)

theorem compare?_swap (accessors : Accessors V) (first second : V) :
    accessors.compare? second first = (accessors.compare? first second).map Ordering.swap := by
  have swapped : (do
      let x ← accessors.number? second
      let y ← accessors.number? first
      x.compare? y) = (do
      let x ← accessors.number? first
      let y ← accessors.number? second
      x.compare? y).map Ordering.swap := by
    cases accessors.number? first <;> cases accessors.number? second <;>
      first | rfl | exact Binary64.compare?_swap _ _
  unfold compare?
  cases accessors.kindOf first <;> cases accessors.kindOf second <;>
    first | rfl | exact swapped

theorem compare?_self_iff {value : V} (kind : accessors.kindOf value = .number) :
    accessors.compare? value value = some .eq ↔ accessors.HasNumber value := by
  rw [compare?, kind, HasNumber]
  simp only [kind, true_implies]
  cases accessors.number? value with
  | none => simp
  | some number => simpa [Binary64.equal] using (Binary64.equal_iff (x := number) (y := number))

-- The order of a value and itself is its own reverse, so they are equal or have none. A list is as
-- long as it has different names only if it repeats none.
theorem deepEquals_self_iff (value : V) :
    accessors.deepEquals grounded accessors.compare? value value = true ↔
      accessors.Throughout accessors.HasDistinctNames value ∧
        accessors.Throughout accessors.HasNumber value := by
  induction value using groundedInduction grounded with
  | step value elementsSelf propertiesSelf =>
    rw [throughout_iff, throughout_iff]
    cases kind : accessors.kindOf value with
    | null =>
      simp [HasDistinctNames, HasNumber, kind, deepEquals_null kind kind]
    | boolean =>
      simp [HasDistinctNames, HasNumber, kind, deepEquals_boolean kind kind]
    | string =>
      simp [HasDistinctNames, HasNumber, kind, deepEquals_string kind kind]
    | number =>
      simp [HasDistinctNames, kind, deepEquals_number kind kind, compare?_self_iff kind]
    | date =>
      have self := compare?_swap accessors value value
      rw [deepEquals_date kind kind]
      cases order : accessors.compare? value value with
      | none => simp [HasDistinctNames, HasNumber, kind]
      | some found =>
        rw [order] at self
        cases found <;> simp_all [HasDistinctNames, HasNumber]
    | array =>
      rw [deepEquals_array kind kind, List.forall₂_same]
      simp only [HasDistinctNames, HasNumber, kind, reduceCtorEq, false_implies, true_and,
        true_implies, and_true, ← forall₂_and]
      exact forall₂_congr elementsSelf
    | object =>
      rw [deepEquals_object kind kind, length_eq_length_eraseDups_iff]
      simp only [HasDistinctNames, HasNumber, kind, reduceCtorEq, false_implies, true_and,
        true_implies, and_assoc, ← forall₂_and]
      refine and_congr_right fun _ => forall₂_congr fun name member => ?_
      rw [propertiesSelf name member]
      exact and_iff_right member

/-- Each list of names is as long as the other has different ones, so neither repeats one. -/
theorem hasDistinctNames_of_both_ways {first second : V}
    (same : accessors.deepEquals grounded accessors.compare? first second = true)
    (same' : accessors.deepEquals grounded accessors.compare? second first = true) :
    accessors.Throughout accessors.HasDistinctNames first := by
  induction first using groundedInduction grounded generalizing second with
  | step first elementsDistinct propertiesDistinct =>
    have kinds := kindOf_of_deepEquals same
    rw [throughout_iff]
    refine ⟨fun kind => ?_, fun kind => ?_, fun kind => ?_⟩
    · have length := ((deepEquals_object kind (kinds ▸ kind)).1 same).1
      have length' := ((deepEquals_object (kinds ▸ kind) kind).1 same').1
      have shorter := (eraseDups_sublist (accessors.propertyNames first)).length_le
      have shorter' := (eraseDups_sublist (accessors.propertyNames second)).length_le
      apply length_eq_length_eraseDups_iff.1
      omega
    · have forth := (deepEquals_array kind (kinds ▸ kind)).1 same
      have back := (deepEquals_array (kinds ▸ kind) kind).1 same'
      intro element member
      obtain ⟨other, related, related'⟩ := exists_of_forall₂ forth back.flip member
      exact elementsDistinct element member related related'
    · have forth := ((deepEquals_object kind (kinds ▸ kind)).1 same).2
      have back := ((deepEquals_object (kinds ▸ kind) kind).1 same').2
      intro name member
      obtain ⟨member', related⟩ := forth name member
      exact propertiesDistinct name member related (back name member').2

theorem names_comm {names names' : List String} {condition : String → Prop} (distinct : names.Nodup)
    (distinct' : names'.Nodup) :
    (names.length = names'.length ∧ ∀ name ∈ names, name ∈ names' ∧ condition name) ↔
      (names'.length = names.length ∧ ∀ name ∈ names', name ∈ names ∧ condition name) := by
  have symm {names names' : List String} (distinct : names.Nodup)
      (counted : names.length = names'.length ∧ ∀ name ∈ names, name ∈ names' ∧ condition name) :
      names'.length = names.length ∧ ∀ name ∈ names', name ∈ names ∧ condition name := by
    obtain ⟨length, known⟩ := counted
    refine ⟨length.symm, fun name member => ?_⟩
    have member' := subset_of_length distinct length (fun _ inside => (known _ inside).1) member
    exact ⟨member', (known name member').2⟩
  exact ⟨symm distinct, symm distinct'⟩

theorem deepEquals_comm {first second : V}
    (distinct : accessors.Throughout accessors.HasDistinctNames first)
    (distinct' : accessors.Throughout accessors.HasDistinctNames second) :
    accessors.deepEquals grounded accessors.compare? first second =
      accessors.deepEquals grounded accessors.compare? second first := by
  induction first using groundedInduction grounded generalizing second with
  | step first elementsSame propertiesSame =>
    obtain ⟨names, elements, properties⟩ := throughout_iff.1 distinct
    obtain ⟨names', elements', properties'⟩ := throughout_iff.1 distinct'
    have order := compare?_swap accessors first second
    by_cases kinds : accessors.kindOf first = accessors.kindOf second
    · cases right : accessors.kindOf second with
      | null =>
        have left := kinds.trans right
        rw [deepEquals_null left right, deepEquals_null right left]
      | boolean =>
        have left := kinds.trans right
        rw [deepEquals_boolean left right, deepEquals_boolean right left, BEq.comm]
      | string =>
        have left := kinds.trans right
        rw [deepEquals_string left right, deepEquals_string right left, BEq.comm]
      | number =>
        have left := kinds.trans right
        rw [deepEquals_number left right, deepEquals_number right left, order]
        cases accessors.compare? first second with
        | none => rfl
        | some found => cases found <;> rfl
      | date =>
        have left := kinds.trans right
        rw [deepEquals_date left right, deepEquals_date right left, order]
        cases accessors.compare? first second with
        | none => exact BEq.comm
        | some found => cases found <;> rfl
      | array =>
        have left := kinds.trans right
        rw [Bool.eq_iff_iff, deepEquals_array left right, deepEquals_array right left]
        refine Iff.trans ?_ ⟨List.Forall₂.flip, List.Forall₂.flip⟩
        apply forall₂_congr_of_mem
        intro element member element' member'
        rw [elementsSame element member (elements left _ member) (elements' right _ member')]
        rfl
      | object =>
        -- No name is repeated, so both counts are lengths and every name occurs on both sides.
        have left := kinds.trans right
        rw [Bool.eq_iff_iff, deepEquals_object left right, deepEquals_object right left,
          eraseDups_of_nodup (names left), eraseDups_of_nodup (names' right)]
        refine (names_comm (names left) (names' right)).trans ?_
        refine and_congr_right fun _ => forall₂_congr fun name member => ?_
        refine and_congr_right fun member' => ?_
        rw [propertiesSame name member' (properties left _ member') (properties' right _ member)]
    · rw [deepEquals_of_kind_ne kinds, deepEquals_of_kind_ne (Ne.symm kinds)]

/-- A value is equal to itself if no object in it repeats a name and its numbers can be compared.
Two values are equal both ways if they are one way and no object in either repeats a name. -/
theorem deepEquals_both_ways_iff (grounded : accessors.Grounded) (first second : V) :
    (accessors.deepEquals grounded accessors.compare? first first = true ↔
      accessors.Throughout accessors.HasDistinctNames first ∧
        accessors.Throughout accessors.HasNumber first) ∧
    (accessors.deepEquals grounded accessors.compare? first second = true ∧
        accessors.deepEquals grounded accessors.compare? second first = true ↔
      accessors.deepEquals grounded accessors.compare? first second = true ∧
        accessors.Throughout accessors.HasDistinctNames first ∧
        accessors.Throughout accessors.HasDistinctNames second) ∧
    (accessors.Throughout accessors.HasDistinctNames first →
      accessors.Throughout accessors.HasDistinctNames second →
      accessors.deepEquals grounded accessors.compare? first second =
        accessors.deepEquals grounded accessors.compare? second first) := by
  refine ⟨deepEquals_self_iff first, and_congr_right fun same => ?_, deepEquals_comm⟩
  constructor
  · intro same'
    exact ⟨hasDistinctNames_of_both_ways same same', hasDistinctNames_of_both_ways same' same⟩
  · rintro ⟨distinct, distinct'⟩
    rw [← deepEquals_comm distinct distinct', same]

end Accessors

namespace Doc

variable {condition : Doc → Prop}

theorem throughout_list {items : List Doc} :
    accessors.Throughout condition (.list items) ↔
      condition (.list items) ∧ ∀ item ∈ items, accessors.Throughout condition item := by
  rw [Accessors.throughout_iff]
  simp only [accessors, kind, elements, reduceCtorEq, false_implies, true_implies, and_true]

theorem throughout_record {entries : List (String × Doc)} :
    accessors.Throughout condition (.record entries) ↔ condition (.record entries) ∧
      ∀ name ∈ entries.map Prod.fst,
        accessors.Throughout condition ((entries.lookup name).getD .null) := by
  rw [Accessors.throughout_iff]
  simp only [accessors, kind, property, members, reduceCtorEq, false_implies, true_implies,
    true_and]

theorem throughout_atom {value : Doc} (unlisted : value.kind ≠ .array)
    (unnamed : value.kind ≠ .object) :
    accessors.Throughout condition value ↔ condition value := by
  rw [Accessors.throughout_iff]
  exact and_iff_left ⟨fun kind => absurd kind unlisted, fun kind => absurd kind unnamed⟩

theorem throughout_number {value : Binary64} :
    accessors.Throughout condition (.number value) ↔ condition (.number value) :=
  throughout_atom nofun nofun

theorem throughout_date {seconds : Int64} :
    accessors.Throughout condition (.date seconds) ↔ condition (.date seconds) :=
  throughout_atom nofun nofun

theorem hasDistinctNames_iff {value : Doc} :
    accessors.HasDistinctNames value ↔ (value.members.map Prod.fst).Nodup := by
  cases value with
  | record entries => exact ⟨fun distinct => distinct rfl, fun distinct _ => distinct⟩
  | _ => exact iff_of_true (fun _ => List.nodup_nil) List.nodup_nil

theorem hasNumber_iff {value : Doc} :
    accessors.HasNumber value ↔
      (value.kind = .number → ∃ number, value.number? = some number ∧ number.isNaN = false) :=
  Iff.rfl

def dated (reversed : Bool) : Doc :=
  .record (if reversed then [("at", .date 5), ("values", .list [.number (.zero true)])]
    else [("values", .list [.number (.zero true)]), ("at", .date 5)])

theorem deepEquals_both_ways_iff_dated :
    binding.equals (dated false) (dated false) = true ∧
      binding.equals (dated false) (dated true) = binding.equals (dated true) (dated false) := by
  have laws := Accessors.deepEquals_both_ways_iff grounded (dated false) (dated true)
  have distinct (reversed : Bool) :
      accessors.Throughout accessors.HasDistinctNames (dated reversed) := by
    cases reversed <;>
      simp [dated, throughout_record, throughout_list, throughout_number, throughout_date,
        hasDistinctNames_iff, members, List.lookup_cons]
  have numbers : accessors.Throughout accessors.HasNumber (dated false) := by
    simpa [dated, throughout_record, throughout_list, throughout_number, throughout_date,
      hasNumber_iff, kind, number?, List.lookup_cons] using
        (by decide : (Binary64.zero true).isNaN = false)
  exact ⟨laws.1.2 ⟨distinct false, numbers⟩, laws.2.2 (distinct false) (distinct true)⟩

/-- A record that repeats a name is not equal to itself, and equal to another record one way only. -/
theorem equals_not_reflexive_nor_symmetric :
    let repeated := binding.object [("a", .null), ("a", .null)]
    let other := binding.object [("a", .null), ("b", .null)]
    binding.equals repeated repeated = false ∧ binding.equals repeated other = true ∧
      binding.equals other repeated = false := by
  refine ⟨Bool.eq_false_iff.2 fun same => ?_, ?_, Bool.eq_false_iff.2 fun same => ?_⟩
  · have length := ((Accessors.deepEquals_object rfl rfl).1 same).1
    revert length
    decide
  · refine (Accessors.deepEquals_object rfl rfl).2 ⟨by decide, fun name member => ?_⟩
    have first : name = "a" := by simpa [accessors, members, binding, constructors] using member
    subst first
    exact ⟨by decide, Accessors.deepEquals_null rfl rfl⟩
  · have length := ((Accessors.deepEquals_object rfl rfl).1 same).1
    revert length
    decide

end Doc

end DocQuery
