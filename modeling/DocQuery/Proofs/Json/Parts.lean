import DocQuery.Proofs.Json.Structure

/-! What occurs inside a JSON value, at whatever depth. -/

set_option autoImplicit false

namespace DocQuery.Json

inductive Inside : Json → Json → Prop where
  | self {value : Json} : Inside value value
  | element {part element value : Json} : element ∈ value.elements → Inside part element →
      Inside part value
  | member {part value : Json} {member : String × Json} : member ∈ value.members →
      Inside part member.2 → Inside part value

/-- Every number inside a value, at whatever depth, satisfies a condition. -/
def HasNumbers (condition : Number → Prop) (value : Json) : Prop :=
  ∀ found, Inside (number found) value → condition found

variable {condition : Number → Prop}

theorem hasNumbers_iff {value : Json} :
    value.HasNumbers condition ↔ (∀ found, value = number found → condition found) ∧
      (∀ element ∈ value.elements, element.HasNumbers condition) ∧
      ∀ member ∈ value.members, member.2.HasNumbers condition := by
  constructor
  · intro satisfied
    refine ⟨?_, ?_, ?_⟩
    · rintro found rfl
      exact satisfied found .self
    · exact fun element member found inside => satisfied found (.element member inside)
    · exact fun member inside found deeper => satisfied found (.member inside deeper)
  · rintro ⟨outer, elements, members⟩ found inside
    generalize part : number found = inner at inside
    cases inside with
    | self => exact outer found part.symm
    | element member inside => exact elements _ member found (part ▸ inside)
    | member member inside => exact members _ member found (part ▸ inside)

theorem hasNumbers_number {found : Number} :
    (number found).HasNumbers condition ↔ condition found := by
  rw [hasNumbers_iff]
  constructor
  · exact fun satisfied => satisfied.1 found rfl
  · intro satisfied
    refine ⟨?_, nofun, nofun⟩
    intro other same
    cases same
    exact satisfied

theorem hasNumbers_array {elements : List Json} :
    (array elements).HasNumbers condition ↔ ∀ element ∈ elements, element.HasNumbers condition := by
  rw [hasNumbers_iff, elements_array]
  refine ⟨fun satisfied => satisfied.2.1, fun satisfied => ⟨?_, satisfied, ?_⟩⟩
  · intro found same
    cases congrArg raw same
  · exact List.forall_mem_nil _

theorem hasNumbers_object {members : List (String × Json)}
    {distinct : (members.map Prod.fst).Nodup} :
    (object members distinct).HasNumbers condition ↔
      ∀ member ∈ members, member.2.HasNumbers condition := by
  rw [hasNumbers_iff, members_object]
  refine ⟨fun satisfied => satisfied.2.2, fun satisfied => ⟨?_, ?_, satisfied⟩⟩
  · intro found same
    cases congrArg raw same
  · exact List.forall_mem_nil _

theorem hasNumbers_null : null.HasNumbers condition := by
  refine hasNumbers_iff.2 ⟨?_, List.forall_mem_nil _, List.forall_mem_nil _⟩
  intro found same
  cases congrArg raw same

theorem hasNumbers_boolean (flag : Bool) : (boolean flag).HasNumbers condition := by
  refine hasNumbers_iff.2 ⟨?_, List.forall_mem_nil _, List.forall_mem_nil _⟩
  intro found same
  cases congrArg raw same

theorem hasNumbers_string (text : String) : (string text).HasNumbers condition := by
  refine hasNumbers_iff.2 ⟨?_, List.forall_mem_nil _, List.forall_mem_nil _⟩
  intro found same
  cases congrArg raw same

end DocQuery.Json
