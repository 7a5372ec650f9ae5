import Mathlib.Data.List.Forall2
import Mathlib.Data.List.Perm.Subperm

/-! Lists of named members, in which no name is repeated.

Such lists are compared by name: the order of the members does not matter, and a size and one
direction decide about both.
-/

set_option autoImplicit false

namespace DocQuery

variable {α β : Type}

theorem mem_of_lookup {members : List (String × α)} {name : String} {value : α}
    (found : members.lookup name = some value) : (name, value) ∈ members := by
  obtain ⟨before, after, rfl, -⟩ := List.lookup_eq_some_iff.1 found
  exact List.mem_append_right _ List.mem_cons_self

theorem lookup_of_mem {members : List (String × α)} {name : String} {value : α}
    (distinct : (members.map Prod.fst).Nodup) (member : (name, value) ∈ members) :
    members.lookup name = some value := by
  induction members with
  | nil => cases member
  | cons first rest ih =>
    obtain ⟨unused, others⟩ := List.nodup_cons.1 distinct
    rcases List.mem_cons.1 member with rfl | later
    · exact List.lookup_cons_self
    · have different : ¬ name = first.1 := by
        intro same
        exact unused (same ▸ List.mem_map_of_mem later)
      rw [List.lookup_cons, beq_eq_false_iff_ne.2 different]
      exact ih others later

theorem lookup_eq_none_iff {members : List (String × α)} {name : String} :
    members.lookup name = none ↔ name ∉ members.map Prod.fst := by
  rw [List.lookup_eq_none_iff, List.mem_map]
  constructor
  · rintro missing ⟨member, inside, rfl⟩
    simpa using missing member inside
  · intro missing member inside
    simp only [bne_iff_ne, ne_eq]
    rintro rfl
    exact missing ⟨member, inside, rfl⟩

theorem lookup_map_snd (change : α → β) (members : List (String × α)) (name : String) :
    (members.map fun member => (member.1, change member.2)).lookup name =
      (members.lookup name).map change := by
  induction members with
  | nil => rfl
  | cons member rest ih =>
    rw [List.map_cons, List.lookup_cons, List.lookup_cons, ih]
    cases name == member.1 <;> rfl

theorem rel_eq_none_iff {relation : α → β → Prop} {first : Option α} {second : Option β}
    (related : Option.Rel relation first second) : first = none ↔ second = none := by
  cases related <;> simp

theorem rel_flip {relation : α → β → Prop} {first : Option α} {second : Option β}
    (related : Option.Rel relation first second) : Option.Rel (flip relation) second first := by
  cases related with
  | none => exact .none
  | some related => exact .some related

theorem exists_of_rel_some {relation : α → β → Prop} {value : α} {found : Option β}
    (related : Option.Rel relation (some value) found) :
    ∃ other, found = some other ∧ relation value other := by
  cases related with
  | some related => exact ⟨_, rfl, related⟩

/-- Members of the same name, in the same order, with related values. -/
def MemberRelated (relation : α → β → Prop) (member : String × α) (other : String × β) : Prop :=
  member.1 = other.1 ∧ relation member.2 other.2

variable {relation : α → β → Prop} {members : List (String × α)} {others : List (String × β)}

theorem forall₂_mono {relation weaker : α → β → Prop} {items : List α} {others : List β}
    (related : List.Forall₂ relation items others)
    (implies : ∀ item ∈ items, ∀ other, relation item other → weaker item other) :
    List.Forall₂ weaker items others := by
  have both := (List.forall₂_and_left items others).2 ⟨implies, related⟩
  exact both.imp fun _ _ pair => pair.1 _ pair.2

theorem forall₂_getElem? {relation : α → β → Prop} {items : List α} {items' : List β}
    (related : List.Forall₂ relation items items') (position : Nat) :
    Option.Rel relation items[position]? items'[position]? := by
  induction related generalizing position with
  | nil => exact .none
  | cons head _ ih =>
    cases position with
    | zero => exact .some head
    | succ position => exact ih position

theorem exists_of_forall₂ {relation relation' : α → β → Prop} {items : List α} {others : List β}
    (related : List.Forall₂ relation items others)
    (related' : List.Forall₂ relation' items others) {item : α} (member : item ∈ items) :
    ∃ other, relation item other ∧ relation' item other := by
  obtain ⟨position, found⟩ := List.mem_iff_getElem?.1 member
  have pair := forall₂_getElem? related position
  have pair' := forall₂_getElem? related' position
  rw [found] at pair pair'
  generalize others[position]? = found' at pair pair'
  cases pair with
  | some head => exact ⟨_, head, Option.rel_some_some.1 pair'⟩

theorem forall₂_congr_of_mem {relation relation' : α → β → Prop} {items : List α} {others : List β}
    (same : ∀ item ∈ items, ∀ other ∈ others, (relation item other ↔ relation' item other)) :
    List.Forall₂ relation items others ↔ List.Forall₂ relation' items others := by
  rw [List.forall₂_iff_zip, List.forall₂_iff_zip]
  refine and_congr_right fun _ => forall_congr' fun item => forall_congr' fun other => ?_
  refine forall_congr' fun paired => ?_
  obtain ⟨member, member'⟩ := List.of_mem_zip paired
  exact same item member other member'

theorem forall₂_image_iff {condition : α → Prop} {image : α → β} {items : List α}
    {others : List β} :
    List.Forall₂ (fun item other => condition item ∧ image item = other) items others ↔
      (∀ item ∈ items, condition item) ∧ items.map image = others := by
  rw [← List.forall₂_eq_eq_eq, List.forall₂_map_left_iff]
  exact List.forall₂_and_left items others

theorem rel_congr_of_eq {relation relation' : α → β → Prop} {first : Option α}
    {second : Option β} (same : ∀ value, first = some value → ∀ other, second = some other →
      (relation value other ↔ relation' value other)) :
    Option.Rel relation first second ↔ Option.Rel relation' first second := by
  cases first with
  | none => cases second <;> simp
  | some value =>
    cases second with
    | none => simp
    | some other => simpa using same value rfl other rfl

theorem lookup_mono {weaker : α → β → Prop} {name : String}
    (related : Option.Rel relation (members.lookup name) (others.lookup name))
    (implies : ∀ member ∈ members, ∀ other, relation member.2 other → weaker member.2 other) :
    Option.Rel weaker (members.lookup name) (others.lookup name) := by
  cases found : members.lookup name with
  | none =>
    rw [(rel_eq_none_iff related).1 found]
    exact .none
  | some value =>
    rw [found] at related
    generalize others.lookup name = found' at related ⊢
    cases related with
    | some related => exact .some (implies _ (mem_of_lookup found) _ related)

theorem names_of_forall₂ (related : List.Forall₂ (MemberRelated relation) members others) :
    members.map Prod.fst = others.map Prod.fst := by
  have names := List.rel_map (P := Eq) (fun _ _ pair => pair.1) related
  rwa [List.forall₂_eq_eq_eq] at names

theorem lookup_of_forall₂ (related : List.Forall₂ (MemberRelated relation) members others)
    (name : String) :
    Option.Rel relation (members.lookup name) (others.lookup name) := by
  induction related with
  | nil => exact .none
  | cons head _ ih =>
    rw [List.lookup_cons, List.lookup_cons, head.1]
    split
    · exact .some head.2
    · exact ih

-- Members that agree by name agree in order if their names do.
theorem forall₂_of_lookup (distinct : (members.map Prod.fst).Nodup)
    (names : members.map Prod.fst = others.map Prod.fst)
    (related : ∀ name, Option.Rel relation (members.lookup name) (others.lookup name)) :
    List.Forall₂ (MemberRelated relation) members others := by
  induction members generalizing others with
  | nil =>
    cases others with
    | nil => exact .nil
    | cons other others => cases names
  | cons member members ih =>
    cases others with
    | nil => cases names
    | cons other others =>
      obtain ⟨name, value⟩ := member
      obtain ⟨name', value'⟩ := other
      obtain ⟨unused, distinctRest⟩ := List.nodup_cons.1 distinct
      obtain ⟨same, namesRest⟩ := List.cons_eq_cons.1 names
      cases (same : name = name')
      constructor
      · have head := related name
        rw [List.lookup_cons_self, List.lookup_cons_self] at head
        cases head with | some head => exact ⟨rfl, head⟩
      apply ih distinctRest namesRest
      intro other
      by_cases first : other = name
      · -- The name of the first member occurs in neither rest.
        rw [first, lookup_eq_none_iff.2 unused, lookup_eq_none_iff.2 (namesRest ▸ unused)]
        exact .none
      · have later := related other
        rwa [List.lookup_cons, List.lookup_cons, beq_eq_false_iff_ne.2 first] at later

/-- Of two lists of one length, the second has nothing that the first lacks if the first repeats
nothing and lies in the second. -/
theorem subset_of_length {items others : List α} (distinct : items.Nodup)
    (length : items.length = others.length) (included : items ⊆ others) : others ⊆ items := by
  have subperm := List.subperm_of_subset distinct included
  exact (subperm.perm_of_length_le (Nat.le_of_eq length.symm)).symm.subset

theorem perm_names_of_lookup (distinct : (members.map Prod.fst).Nodup)
    (distinct' : (others.map Prod.fst).Nodup)
    (related : ∀ name, Option.Rel relation (members.lookup name) (others.lookup name)) :
    (members.map Prod.fst).Perm (others.map Prod.fst) := by
  apply (List.perm_ext_iff_of_nodup distinct distinct').2
  intro name
  rw [← not_iff_not, ← lookup_eq_none_iff, ← lookup_eq_none_iff]
  exact rel_eq_none_iff (related name)

theorem lookup_eq_of_perm {known : List (String × α)} (distinct : (members.map Prod.fst).Nodup)
    (perm : known.Perm members) (name : String) : known.lookup name = members.lookup name := by
  have distinct' : (known.map Prod.fst).Nodup := (perm.map Prod.fst).nodup_iff.2 distinct
  cases found : members.lookup name with
  | none =>
    rw [lookup_eq_none_iff] at found ⊢
    exact mt (perm.map Prod.fst).mem_iff.1 found
  | some value => exact lookup_of_mem distinct' (perm.mem_iff.2 (mem_of_lookup found))

/-- Lists without repeated names agree by name if they are of one length and every member of the
first has its counterpart in the second. -/
theorem lookup_rel_iff (distinct : (members.map Prod.fst).Nodup)
    (distinct' : (others.map Prod.fst).Nodup) :
    (members.length = others.length ∧ ∀ member ∈ members,
        ∃ other, others.lookup member.1 = some other ∧ relation member.2 other) ↔
      ∀ name, Option.Rel relation (members.lookup name) (others.lookup name) := by
  constructor
  · rintro ⟨length, counterpart⟩ name
    cases found : members.lookup name with
    | some value =>
      obtain ⟨other, found', related⟩ := counterpart (name, value) (mem_of_lookup found)
      rw [found']
      exact .some related
    | none =>
      have included : members.map Prod.fst ⊆ others.map Prod.fst := by
        intro known listed
        obtain ⟨member, inside, rfl⟩ := List.mem_map.1 listed
        obtain ⟨other, found', -⟩ := counterpart member inside
        exact List.mem_map_of_mem (mem_of_lookup found')
      have missing : others.lookup name = none := by
        rw [lookup_eq_none_iff] at found ⊢
        have sizes : (members.map Prod.fst).length = (others.map Prod.fst).length := by
          simp [length]
        exact fun inside => found (subset_of_length distinct sizes included inside)
      rw [missing]
      exact .none
  · intro related
    constructor
    · simpa using (perm_names_of_lookup distinct distinct' related).length_eq
    · rintro ⟨name, value⟩ inside
      have pair := related name
      rw [lookup_of_mem distinct inside] at pair
      generalize others.lookup name = found at pair ⊢
      cases pair with | some related => exact ⟨_, rfl, related⟩

end DocQuery
