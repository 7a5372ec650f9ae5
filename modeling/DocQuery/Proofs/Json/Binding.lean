import DocQuery.Proofs.Json.Alike
import DocQuery.Proofs.Simulation.Binding

/-! The operations of JSON documents do not tell alike values apart.

Where the order of members does not count, reading the values of an object in their order is the
one exception.
-/

set_option autoImplicit false

namespace DocQuery.Json

variable {ordered : Bool}

theorem forall₂_congr {α β : Type} {xs xs' : List α} {ys ys' : List β} {left : α → α → Prop}
    {right : β → β → Prop} {relation relation' : α → β → Prop}
    (first : List.Forall₂ left xs xs') (second : List.Forall₂ right ys ys')
    (same : ∀ x ∈ xs, ∀ x' y y', left x x' → right y y' → (relation x y ↔ relation' x' y')) :
    List.Forall₂ relation xs ys ↔ List.Forall₂ relation' xs' ys' := by
  induction first generalizing ys ys' with
  | nil => cases second <;> simp
  | cons head _ ih =>
    cases second with
    | nil => simp
    | cons head' tail' =>
      rw [List.forall₂_cons, List.forall₂_cons, same _ List.mem_cons_self _ _ _ head head']
      exact and_congr_right fun _ => ih tail' fun x member => same x (List.mem_cons_of_mem _ member)

theorem rel_congr {α β : Type} {x x' : Option α} {y y' : Option β} {left : α → α → Prop}
    {right : β → β → Prop} {relation relation' : α → β → Prop} (first : Option.Rel left x x')
    (second : Option.Rel right y y')
    (same : ∀ a, x = some a → ∀ a' b b', left a a' → right b b' →
      (relation a b ↔ relation' a' b')) :
    Option.Rel relation x y ↔ Option.Rel relation' x' y' := by
  cases first with
  | none => cases second with
    | none => exact iff_of_true .none .none
    | some _ => exact iff_of_false nofun nofun
  | some head => cases second with
    | none => exact iff_of_false nofun nofun
    | some head' =>
      rw [Option.rel_some_some, Option.rel_some_some]
      exact same _ rfl _ _ _ head head'

-- Values of different shapes are unequal on both sides.
theorem sameValue_congr {x x' y y' : Json} (first : Alike ordered x x')
    (second : Alike ordered y y') : x.sameValue y = x'.sameValue y' := by
  induction x using contentInduction generalizing x' y y' with
  | step x elementsSame membersSame =>
    cases first with
    | null | boolean | string => cases second <;> rfl
    | number same => cases second with
      | number same' => exact Number.sameValue_congr same same'
      | _ => rfl
    | @array elements elements' related => cases second with
      | array related' =>
        rw [elements_array] at elementsSame
        apply Bool.eq_iff_iff.2
        refine equalBy_array.trans (Iff.trans ?_ equalBy_array.symm)
        apply forall₂_congr related related'
        intro element member element' other other' same same'
        exact Bool.eq_iff_iff.1 (elementsSame element member same same')
      | _ => rfl
    | @object members members' distinct distinct' byName => cases second with
      | object byName' =>
        rw [members_object] at membersSame
        apply Bool.eq_iff_iff.2
        refine (equalBy_object _ _).trans (Iff.trans ?_ (equalBy_object _ _).symm)
        apply forall_congr'
        intro name
        apply rel_congr (byName name) (byName' name)
        intro value found value' other other' same same'
        exact Bool.eq_iff_iff.1 (membersSame _ (mem_of_lookup found) same same')
      | _ => rfl

/-- Alike values are equal, unless an equality tells apart numbers that are equal as written. -/
theorem Alike.equalBy {numbers : Number → Number → Bool}
    (coarser : ∀ {value value' : Number}, value.sameForm value' = true →
      numbers value value' = true) {x y : Json} (alike : Alike ordered x y) :
    x.equalBy numbers y = true := by
  induction x using contentInduction generalizing y with
  | step x elementsEqual membersEqual =>
    cases alike with
    | null => rfl
    | boolean flag => exact beq_self_eq_true flag
    | number same => exact coarser same
    | string text => exact beq_self_eq_true text
    | @array elements elements' related =>
      rw [elements_array] at elementsEqual
      apply equalBy_array.2
      exact forall₂_mono related fun element member _ => elementsEqual element member
    | @object members members' distinct distinct' byName =>
      rw [members_object] at membersEqual
      apply (equalBy_object distinct distinct').2
      intro name
      exact lookup_mono (byName name) fun member inside _ => membersEqual member inside

theorem Alike.sameValue {x y : Json} (alike : Alike ordered x y) : x.sameValue y = true :=
  alike.equalBy Number.sameValue_of_sameForm

theorem Alike.kind {x y : Json} (alike : Alike ordered x y) : x.kind = y.kind := by
  cases alike <;> rfl

theorem Alike.elements {x y : Json} (alike : Alike ordered x y) :
    List.Forall₂ (Alike ordered) x.elements y.elements := by
  cases alike with
  | array related =>
    rw [elements_array, elements_array]
    exact related
  | _ => exact .nil

theorem Alike.arrayLength {x y : Json} (alike : Alike ordered x y) :
    x.arrayLength = y.arrayLength := by
  rw [arrayLength_eq, arrayLength_eq, alike.elements.length_eq]

theorem Alike.get? {x y : Json} (alike : Alike ordered x y) (position : Nat) :
    Option.Rel (Alike ordered) (x.get? position) (y.get? position) := by
  rw [get?_eq, get?_eq]
  exact forall₂_getElem? alike.elements position

theorem Alike.lookup {x y : Json} (alike : Alike ordered x y) (name : String) :
    Option.Rel (Alike ordered) (x.members.lookup name) (y.members.lookup name) := by
  cases alike with
  | object byName =>
    rw [members_object, members_object]
    exact byName name
  | _ => exact .none

theorem Alike.getD {first second : Option Json}
    (related : Option.Rel (Alike ordered) first second) :
    Alike ordered (first.getD .null) (second.getD .null) := by
  cases related with
  | none => exact .null
  | some alike => exact alike

-- Neither object has a name that the other lacks.
theorem Alike.length_members {x y : Json} (alike : Alike ordered x y) :
    x.members.length = y.members.length :=
  ((lookup_rel_iff x.nodup_members y.nodup_members).2 alike.lookup).1

-- An object is empty if it has no names, which a reordering does not change.
theorem Alike.isTruthy {x y : Json} (alike : Alike ordered x y) :
    binding.isTruthy x = binding.isTruthy y := by
  have length := alike.arrayLength
  have members := alike.length_members
  cases alike with
  | array _ => exact congrArg (fun length => decide (0 < length)) length
  | object _ _ =>
    apply congrArg Bool.not
    rw [Bool.eq_iff_iff, List.isEmpty_iff_length_eq_zero, List.isEmpty_iff_length_eq_zero]
    change (List.map _ _).length = 0 ↔ (List.map _ _).length = 0
    rw [List.length_map, List.length_map, members]
  | _ => rfl

theorem Alike.compare? {x x' y y' : Json} (first : Alike ordered x x')
    (second : Alike ordered y y') : binding.compare? x y = binding.compare? x' y' := by
  cases first with
  | number same => cases second with
    | number same' =>
      exact Binary64.compare?_congr (Number.equal_toBinary64 same) (Number.equal_toBinary64 same')
    | _ => rfl
  | _ => cases second <;> rfl

-- The names alone decide which place is taken.
theorem forall₂_insertMember {members members' : List (String × Json)}
    (related : List.Forall₂ (MemberRelated (Alike ordered)) members members') (name : String)
    {value value' : Json} (alike : Alike ordered value value') :
    List.Forall₂ (MemberRelated (Alike ordered)) (insertMember members name value)
      (insertMember members' name value') := by
  induction related with
  | nil => exact .cons ⟨rfl, alike⟩ .nil
  | cons head tail ih =>
    rw [insertMember, insertMember, head.1]
    split
    · exact .cons ⟨rfl, alike⟩ tail
    · exact .cons ⟨rfl, head.2⟩ ih

theorem forall₂_collectMembers {members members' : List (String × Json)}
    (related : List.Forall₂ (MemberRelated (Alike ordered)) members members') :
    List.Forall₂ (MemberRelated (Alike ordered)) (collectMembers members)
      (collectMembers members') := by
  refine List.rel_foldl ?_ .nil related
  rintro known known' relatedKnown ⟨name, value⟩ ⟨_, value'⟩ ⟨rfl, alike⟩
  exact forall₂_insertMember relatedKnown name alike

theorem Alike.ofMembers {members members' : List (String × Json)}
    (related : List.Forall₂ (MemberRelated (Alike ordered)) members members') :
    Alike ordered (ofMembers members) (ofMembers members') := by
  have collected := forall₂_collectMembers related
  unfold Json.ofMembers
  exact .object (lookup_of_forall₂ collected) fun _ => names_of_forall₂ collected

theorem similar_binding : Binding.Similar (Alike ordered) binding binding where
  kindOf := Alike.kind
  elements := Alike.elements
  property alike name := .getD (alike.lookup name)
  null := .null
  boolean := .boolean
  array := .array
  object := .ofMembers
  equals := sameValue_congr
  isArray alike := congrArg (· == .array) alike.kind
  isObject alike := congrArg (· == .object) alike.kind
  isNull alike := congrArg (· == .null) alike.kind
  kindName alike := congrArg Kind.name alike.kind
  arrayLength := Alike.arrayLength
  isTruthy := Alike.isTruthy
  elementAt alike position := .getD (alike.get? position)
  compare? := Alike.compare?

/-- Where the order of members counts, the values of an object's properties are alike in turn. -/
theorem Alike.propertyValues {x y : Json} (alike : Alike true x y) :
    List.Forall₂ (Alike true) (binding.propertyValues x) (binding.propertyValues y) := by
  have names : x.members.map Prod.fst = y.members.map Prod.fst := by
    cases alike with
    | object _ inOrder =>
      rw [members_object, members_object]
      exact inOrder rfl
    | _ => rfl
  have members := forall₂_of_lookup x.nodup_members names alike.lookup
  exact List.rel_map (fun _ _ pair => pair.2) members

end DocQuery.Json
