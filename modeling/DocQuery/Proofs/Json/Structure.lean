import DocQuery.Json.Equality
import DocQuery.Proofs.Members

/-! JSON values by what they are made of, without the trees behind them.

Every value is built by one of the constructors, and equality descends from there to the elements
and, by name, to the members.
-/

set_option autoImplicit false

namespace DocQuery.Json

theorem eq_array {value : Json} {elements : List Raw} (shape : value.raw = .array elements) :
    value = array value.elements := by
  obtain ⟨raw, distinct⟩ := value
  cases shape
  ext1
  simp [array, Json.elements, List.map_pmap]

theorem eq_object {value : Json} {members : List (String × Raw)}
    (shape : value.raw = .object members) : value = object value.members value.nodup_members := by
  obtain ⟨raw, distinct⟩ := value
  cases shape
  ext1
  simp [object, Json.members, List.map_pmap]

@[elab_as_elim] theorem shapes {motive : Json → Prop} (null : motive null)
    (boolean : ∀ flag, motive (boolean flag)) (number : ∀ value, motive (number value))
    (string : ∀ text, motive (string text)) (array : ∀ elements, motive (array elements))
    (object : ∀ members distinct, motive (object members distinct)) (value : Json) :
    motive value := by
  cases shape : value.raw with
  | null => exact (Json.ext shape : value = Json.null) ▸ null
  | boolean flag => exact (Json.ext shape : value = Json.boolean flag) ▸ boolean flag
  | number found => exact (Json.ext shape : value = Json.number found) ▸ number found
  | string text => exact (Json.ext shape : value = Json.string text) ▸ string text
  | array elements =>
    rw [eq_array shape]
    exact array _
  | object members =>
    rw [eq_object shape]
    exact object _ _

theorem sizeOf_lt_of_mem_elements {value element : Json} (member : element ∈ value.elements) :
    sizeOf element.raw < sizeOf value.raw := by
  cases value using shapes with
  | array elements =>
    rw [elements_array] at member
    have smaller := List.sizeOf_lt_of_mem (List.mem_map_of_mem (f := raw) member)
    simp only [array, Raw.array.sizeOf_spec]
    omega
  | _ => cases member

theorem sizeOf_lt_of_mem_members {value : Json} {member : String × Json}
    (inside : member ∈ value.members) : sizeOf member.2.raw < sizeOf value.raw := by
  cases value using shapes with
  | object members distinct =>
    rw [members_object] at inside
    have smaller := List.sizeOf_lt_of_mem
      (List.mem_map_of_mem (f := fun member => (member.1, member.2.raw)) inside)
    simp only [object, Raw.object.sizeOf_spec]
    simp only [Prod.mk.sizeOf_spec] at smaller
    omega
  | _ => cases inside

/-- What holds of a value whenever it holds of its elements and members holds of every value. -/
@[elab_as_elim] theorem contentInduction {motive : Json → Prop}
    (step : ∀ value : Json, (∀ element ∈ value.elements, motive element) →
      (∀ member ∈ value.members, motive member.2) → motive value) (value : Json) :
    motive value := by
  induction size : sizeOf value.raw using Nat.strongRecOn generalizing value with
  | ind size ih =>
    apply step
    · intro element member
      exact ih _ (size ▸ sizeOf_lt_of_mem_elements member) element rfl
    · intro member inside
      exact ih _ (size ▸ sizeOf_lt_of_mem_members inside) member.2 rfl

theorem insertMember_of_unused {members : List (String × Json)} {name : String} (value : Json)
    (unused : name ∉ members.map Prod.fst) :
    insertMember members name value = members ++ [(name, value)] := by
  induction members with
  | nil => rfl
  | cons member rest ih =>
    obtain ⟨different, later⟩ := not_or.1 (mt List.mem_cons.2 unused)
    rw [insertMember, if_neg fun same => different same.symm, ih later, List.cons_append]

theorem collectMembers_of_nodup {members : List (String × Json)}
    (distinct : (members.map Prod.fst).Nodup) : collectMembers members = members := by
  suffices step : ∀ known : List (String × Json), ((known ++ members).map Prod.fst).Nodup →
      members.foldl (fun known member => insertMember known member.1 member.2) known =
        known ++ members from step [] distinct
  clear distinct
  induction members with
  | nil => exact fun known _ => (List.append_nil known).symm
  | cons member rest ih =>
    intro known distinct
    have together : known ++ member :: rest = known ++ [member] ++ rest := by simp
    have unused : member.1 ∉ known.map Prod.fst := by
      intro used
      rw [List.map_append, List.nodup_append] at distinct
      exact distinct.2.2 _ used member.1 (by simp) rfl
    rw [List.foldl_cons, insertMember_of_unused member.2 unused, together]
    exact ih _ (together ▸ distinct)

theorem ofMembers_of_nodup {members : List (String × Json)}
    (distinct : (members.map Prod.fst).Nodup) : ofMembers members = object members distinct := by
  unfold ofMembers
  congr 1
  exact collectMembers_of_nodup distinct

theorem mem_insertMember {members : List (String × Json)} {name : String} {value : Json}
    {member : String × Json} (inside : member ∈ insertMember members name value) :
    member = (name, value) ∨ member ∈ members := by
  induction members with
  | nil => exact .inl (List.mem_singleton.1 inside)
  | cons first rest ih =>
    rw [insertMember] at inside
    split at inside
    · next same =>
      subst same
      exact (List.mem_cons.1 inside).imp_right (List.mem_cons_of_mem _)
    · rcases List.mem_cons.1 inside with rfl | later
      · exact .inr List.mem_cons_self
      · exact (ih later).imp_right (List.mem_cons_of_mem _)

-- A member that has been set before or is still to be set is one of all.
theorem mem_of_mem_collectMembers {members : List (String × Json)} {member : String × Json}
    (inside : member ∈ collectMembers members) : member ∈ members := by
  suffices step : ∀ known : List (String × Json),
      member ∈ members.foldl (fun known member => insertMember known member.1 member.2) known →
        member ∈ known ∨ member ∈ members from (step [] inside).resolve_left List.not_mem_nil
  clear inside
  induction members with
  | nil => exact fun known inside => .inl inside
  | cons first rest ih =>
    intro known inside
    rcases ih _ inside with set | later
    · rcases mem_insertMember set with rfl | before
      · exact .inr List.mem_cons_self
      · exact .inl before
    · exact .inr (List.mem_cons_of_mem _ later)

def equalBy (numbers : Number → Number → Bool) (x y : Json) : Bool :=
  x.raw.equalBy numbers y.raw

variable {numbers : Number → Number → Bool}

theorem elementsEqualBy_iff {xs ys : List Json} (length : xs.length = ys.length) :
    Raw.elementsEqualBy numbers (xs.map raw) (ys.map raw) = true ↔
      List.Forall₂ (fun x y => x.equalBy numbers y = true) xs ys := by
  induction xs generalizing ys with
  | nil =>
    cases ys with
    | nil => exact iff_of_true rfl .nil
    | cons y ys => cases length
  | cons x xs ih =>
    cases ys with
    | nil => cases length
    | cons y ys =>
      rw [List.forall₂_cons, ← ih (Nat.succ.inj length), List.map_cons, List.map_cons,
        Raw.elementsEqualBy, Bool.and_eq_true]
      rfl

theorem equalBy_array {xs ys : List Json} :
    (array xs).equalBy numbers (array ys) = true ↔
      List.Forall₂ (fun x y => x.equalBy numbers y = true) xs ys := by
  unfold equalBy array
  rw [Raw.equalBy, Bool.and_eq_true, beq_iff_eq, List.length_map, List.length_map]
  constructor
  · rintro ⟨length, elements⟩
    exact (elementsEqualBy_iff length).1 elements
  · intro related
    exact ⟨related.length_eq, (elementsEqualBy_iff related.length_eq).2 related⟩

theorem membersEqualBy_iff {xs ys : List (String × Json)} :
    Raw.membersEqualBy numbers (xs.map fun member => (member.1, member.2.raw))
        (ys.map fun member => (member.1, member.2.raw)) = true ↔
      ∀ member ∈ xs, ∃ y, ys.lookup member.1 = some y ∧ member.2.equalBy numbers y = true := by
  induction xs with
  | nil => simp [Raw.membersEqualBy]
  | cons member xs ih =>
    rw [List.forall_mem_cons, ← ih, List.map_cons, Raw.membersEqualBy, Bool.and_eq_true,
      lookup_map_snd]
    cases ys.lookup member.1 with
    | none => simp
    | some y => simp [equalBy]

theorem equalBy_object {xs ys : List (String × Json)} (distinct : (xs.map Prod.fst).Nodup)
    (distinct' : (ys.map Prod.fst).Nodup) :
    (object xs distinct).equalBy numbers (object ys distinct') = true ↔
      ∀ name, Option.Rel (fun x y => x.equalBy numbers y = true) (xs.lookup name)
        (ys.lookup name) := by
  -- Equality asks for a size and one direction; without repeated names this is both directions.
  rw [← lookup_rel_iff distinct distinct', ← membersEqualBy_iff]
  unfold equalBy object
  rw [Raw.equalBy, Bool.and_eq_true, beq_iff_eq, List.length_map, List.length_map]

end DocQuery.Json
