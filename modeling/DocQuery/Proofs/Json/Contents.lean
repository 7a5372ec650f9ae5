import DocQuery.Json.Binding
import DocQuery.Proofs.Eval.Invariant
import DocQuery.Proofs.Json.Parts

/-! What a JSON value is made of: its scalars, and the names of its members, at whatever depth.

The operations of JSON documents take parts of values and put values together. Besides null and the
booleans they make no scalars, and no names but those that they are given.
-/

set_option autoImplicit false

namespace DocQuery.Json

def IsScalar (value : Json) : Prop := value.kind ≠ .array ∧ value.kind ≠ .object

def Named (name : String) (value : Json) : Prop :=
  ∃ part, Inside part value ∧ name ∈ part.members.map Prod.fst

/-- All scalars inside a value and all its names are certain ones. -/
structure MadeOf (scalars : Json → Prop) (names : String → Prop) (value : Json) : Prop where
  scalar {part : Json} : Inside part value → part.IsScalar → scalars part
  name {name : String} : Named name value → names name

variable {scalars : Json → Prop} {names : String → Prop}

/-- What a value is made of is itself, if it is a scalar, its names, and what its parts are made
of. -/
theorem madeOf_iff {value : Json} :
    value.MadeOf scalars names ↔ (value.IsScalar → scalars value) ∧
      (∀ name ∈ value.members.map Prod.fst, names name) ∧
      (∀ element ∈ value.elements, element.MadeOf scalars names) ∧
      ∀ member ∈ value.members, member.2.MadeOf scalars names := by
  constructor
  · intro madeOf
    refine ⟨madeOf.scalar .self, fun name listed => madeOf.name ⟨value, .self, listed⟩, ?_, ?_⟩
    · intro element member
      refine ⟨fun inside => madeOf.scalar (.element member inside), ?_⟩
      rintro name ⟨part, inside, listed⟩
      exact madeOf.name ⟨part, .element member inside, listed⟩
    · intro member found
      refine ⟨fun inside => madeOf.scalar (.member found inside), ?_⟩
      rintro name ⟨part, inside, listed⟩
      exact madeOf.name ⟨part, .member found inside, listed⟩
  · rintro ⟨outer, outerNames, elements, members⟩
    constructor
    · intro part inside
      cases inside with
      | self => exact outer
      | element member inside => exact (elements _ member).scalar inside
      | member found inside => exact (members _ found).scalar inside
    · rintro name ⟨part, inside, listed⟩
      cases inside with
      | self => exact outerNames name listed
      | element member inside => exact (elements _ member).name ⟨part, inside, listed⟩
      | member found inside => exact (members _ found).name ⟨part, inside, listed⟩

theorem madeOf_scalar {value : Json} (noElements : value.elements = [])
    (noMembers : value.members = []) (holds : scalars value) : value.MadeOf scalars names := by
  rw [madeOf_iff, noElements, noMembers]
  exact ⟨fun _ => holds, List.forall_mem_nil _, List.forall_mem_nil _, List.forall_mem_nil _⟩

theorem madeOf_array {elements : List Json}
    (each : ∀ element ∈ elements, element.MadeOf scalars names) :
    (array elements).MadeOf scalars names := by
  rw [madeOf_iff, elements_array]
  exact ⟨fun scalar => absurd rfl scalar.1, List.forall_mem_nil _, each, List.forall_mem_nil _⟩

theorem madeOf_ofMembers {members : List (String × Json)}
    (each : ∀ member ∈ members, names member.1 ∧ member.2.MadeOf scalars names) :
    (ofMembers members).MadeOf scalars names := by
  have set : ∀ member ∈ collectMembers members,
      names member.1 ∧ member.2.MadeOf scalars names :=
    fun member inside => each member (mem_of_mem_collectMembers inside)
  rw [madeOf_iff, ofMembers, members_object]
  refine ⟨fun scalar => absurd rfl scalar.2, ?_, List.forall_mem_nil _,
    fun member inside => (set member inside).2⟩
  intro name listed
  obtain ⟨member, inside, rfl⟩ := List.mem_map.1 listed
  exact (set member inside).1

/-- The operations make no scalars besides null and the booleans. -/
theorem keeps_madeOf (null : scalars null) (boolean : ∀ flag, scalars (boolean flag)) :
    Binding.Keeps (MadeOf scalars names) names binding := by
  have ofNull : Json.null.MadeOf scalars names := madeOf_scalar rfl rfl null
  refine ⟨?_, ?_, ?_, ?_, ofNull, fun flag => madeOf_scalar rfl rfl (boolean flag), madeOf_array,
    madeOf_ofMembers⟩
  · intro value madeOf
    exact (madeOf_iff.1 madeOf).2.2.1
  · intro value madeOf name
    change ((value.members.lookup name).getD Json.null).MadeOf scalars names
    cases found : value.members.lookup name with
    | none => exact ofNull
    | some part => exact (madeOf_iff.1 madeOf).2.2.2 _ (mem_of_lookup found)
  · intro value madeOf part listed
    obtain ⟨member, inside, rfl⟩ := List.mem_map.1 listed
    exact (madeOf_iff.1 madeOf).2.2.2 member inside
  · intro value madeOf position
    change ((value.get? position).getD Json.null).MadeOf scalars names
    rw [get?_eq]
    cases found : value.elements[position]? with
    | none => exact ofNull
    | some part => exact (madeOf_iff.1 madeOf).2.2.1 part (List.mem_of_getElem? found)

end DocQuery.Json
