import DocQuery.Proofs.Json.Rounded

/-! JSON documents read directly, and through the accessors alone.

Arrays and objects are the same either way. Equality is finer when read directly: it tells apart
integers that are rounded to one binary number.
-/

set_option autoImplicit false

namespace DocQuery.Json

theorem sizeOf_lt_of_holds {part value : Json} (held : accessors.Holds part value) :
    sizeOf part.raw < sizeOf value.raw := by
  cases held with
  | element member => exact sizeOf_lt_of_mem_elements member
  | property member =>
    obtain ⟨⟨_, found⟩, inside, rfl⟩ := List.mem_map.1 member
    have known := lookup_of_mem value.nodup_members inside
    change sizeOf (value.property _).raw < _
    rw [property, known]
    exact sizeOf_lt_of_mem_members inside

theorem grounded : accessors.Grounded :=
  Subrelation.wf sizeOf_lt_of_holds (measure fun value : Json => sizeOf value.raw).wf

theorem reads_id : accessors.Reads id where
  kindOf _ := rfl
  elements _ := (List.map_id _).symm
  propertyNames _ := rfl
  property _ _ := rfl
  number? _ := rfl
  string? _ := rfl
  boolean? _ := rfl

theorem propertyValues_eq (value : Json) :
    value.members.map Prod.snd = accessors.propertyValues value := by
  change _ = (value.members.map Prod.fst).map value.property
  rw [List.map_map]
  apply List.map_congr_left
  intro member inside
  rw [Function.comp_apply, property, lookup_of_mem value.nodup_members inside]
  rfl

/-- What is read directly is what the accessors give. Values that are equal are equal through the
accessors, too, and the other way round if no integer in them is rounded. -/
theorem binding_eq_defaults (x y : Json) (position : Nat) :
    binding.arrayLength x = accessors.arrayLength x ∧
    binding.elementAt x position = accessors.elementAt binding.null x position ∧
    binding.propertyValues x = accessors.propertyValues x ∧
    (binding.equals x y = true → accessors.deepEquals grounded accessors.compare? x y = true) ∧
    (x.IsExact → y.IsExact →
      binding.equals x y = accessors.deepEquals grounded accessors.compare? x y) := by
  have rounded : accessors.deepEquals grounded accessors.compare? x y =
      x.equalBy Number.sameRounded y := reads_id.deepEquals_eq_equalBy x y
  rw [rounded]
  refine ⟨arrayLength_eq x, congrArg (·.getD null) (get?_eq x position), propertyValues_eq x,
    sameRounded_of_sameValue, ?_⟩
  exact fun unrounded unrounded' => (sameRounded_eq_sameValue unrounded unrounded').symm

def labelled (name name' : String) (different : name ≠ name') (value value' : Number) : Json :=
  object [(name, number value), (name', number value')] (by simpa using different)

theorem isExact_labelled {name name' : String} {different : name ≠ name'} {value value' : Number}
    (unrounded : value.IsExact) (unrounded' : value'.IsExact) :
    (labelled name name' different value value').IsExact :=
  hasNumbers_object.2 (by simp [hasNumbers_number, unrounded, unrounded'])

theorem binding_eq_defaults_labelled :
    accessors.deepEquals grounded accessors.compare?
        (labelled "a" "b" (by decide) (.double (.zero true) rfl) .firstInexact)
        (labelled "b" "a" (by decide) .firstInexact (.integer 0 (by decide) (by decide))) = true ∧
      accessors.deepEquals grounded accessors.compare?
        (labelled "a" "b" (by decide) (.double (.zero true) rfl) .lastExact)
        (labelled "b" "a" (by decide) (.double (.zero true) rfl)
          (.integer 0 (by decide) (by decide))) = false := by
  have last : Number.lastExact.IsExact := ⟨by decide, by decide⟩
  have zero : (Number.integer 0 (by decide) (by decide)).IsExact := ⟨by decide, by decide⟩
  have minusZero : (Number.double (.zero true) rfl).IsExact := trivial
  constructor
  · exact (binding_eq_defaults _ _ 0).2.2.2.1 (by decide +kernel)
  · rw [← (binding_eq_defaults _ _ 0).2.2.2.2 (isExact_labelled minusZero last)
      (isExact_labelled minusZero zero)]
    decide +kernel

end DocQuery.Json
