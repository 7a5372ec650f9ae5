import DocQuery.Json.Binding
import DocQuery.Proofs.Json.Number
import DocQuery.Proofs.Json.Structure

/-! Values that no comparison tells apart.

They differ in the signs of zeros and, if that is allowed, in the order of the members of objects.
Equality as written is one such relation; the other leaves no choice of the order.
-/

set_option autoImplicit false

namespace DocQuery.Json

/-- Alike but for the signs of zeros and, unless the order counts, the order of members. -/
inductive Alike (ordered : Bool) : Json → Json → Prop where
  | null : Alike ordered .null .null
  | boolean (flag : Bool) : Alike ordered (.boolean flag) (.boolean flag)
  | number {value value' : Number} : value.sameForm value' = true →
      Alike ordered (.number value) (.number value')
  | string (text : String) : Alike ordered (.string text) (.string text)
  | array {elements elements' : List Json} : List.Forall₂ (Alike ordered) elements elements' →
      Alike ordered (.array elements) (.array elements')
  | object {members members' : List (String × Json)}
      {distinct : (members.map Prod.fst).Nodup} {distinct' : (members'.map Prod.fst).Nodup} :
      (∀ name, Option.Rel (Alike ordered) (members.lookup name) (members'.lookup name)) →
      (ordered = true → members.map Prod.fst = members'.map Prod.fst) →
      Alike ordered (.object members distinct) (.object members' distinct')

variable {ordered : Bool}

theorem Alike.refl (value : Json) : Alike ordered value value := by
  induction value using contentInduction with
  | step value elementsAlike membersAlike =>
    cases value using shapes with
    | null => exact .null
    | boolean flag => exact .boolean flag
    | number value => exact .number (Number.sameForm_self value)
    | string text => exact .string text
    | array elements =>
      rw [elements_array] at elementsAlike
      exact .array (List.forall₂_same.2 elementsAlike)
    | object members distinct =>
      rw [members_object] at membersAlike
      refine .object (fun name => ?_) fun _ => rfl
      cases found : members.lookup name with
      | none => exact .none
      | some value => exact .some (membersAlike _ (mem_of_lookup found))

def zero (negative : Bool) : Json := number (.double (.zero negative) rfl)

theorem alike_zero (negative negative' : Bool) : Alike ordered (zero negative) (zero negative') := by
  apply Alike.number
  cases negative <;> cases negative' <;> rfl

namespace Raw

mutual

def inOrder : Raw → Raw → Bool
  | .null, .null => true
  | .boolean x, .boolean y => x == y
  | .number x, .number y => x.sameForm y
  | .string x, .string y => x == y
  | .array xs, .array ys => elementsInOrder xs ys
  | .object xs, .object ys => membersInOrder xs ys
  | _, _ => false
termination_by structural value => value

def elementsInOrder : List Raw → List Raw → Bool
  | [], [] => true
  | x :: xs, y :: ys => x.inOrder y && elementsInOrder xs ys
  | _, _ => false
termination_by structural elements => elements

def membersInOrder : List (String × Raw) → List (String × Raw) → Bool
  | [], [] => true
  | (name, x) :: xs, (name', y) :: ys => name == name' && x.inOrder y && membersInOrder xs ys
  | _, _ => false
termination_by structural members => members

end

end Raw

def alike (ordered : Bool) (x y : Json) : Bool :=
  if ordered then x.raw.inOrder y.raw else x.sameForm y

theorem forall₂_of_elementsInOrder {xs ys : List Json}
    (same : Raw.elementsInOrder (xs.map raw) (ys.map raw) = true) :
    List.Forall₂ (fun x y => x.raw.inOrder y.raw = true) xs ys := by
  induction xs generalizing ys with
  | nil =>
    cases ys with
    | nil => exact .nil
    | cons y ys => cases same
  | cons x xs ih =>
    cases ys with
    | nil => cases same
    | cons y ys =>
      obtain ⟨head, tail⟩ := Bool.and_eq_true_iff.1 same
      exact .cons head (ih tail)

theorem forall₂_of_membersInOrder {xs ys : List (String × Json)}
    (same : Raw.membersInOrder (xs.map fun member => (member.1, member.2.raw))
      (ys.map fun member => (member.1, member.2.raw)) = true) :
    List.Forall₂ (MemberRelated fun x y => x.raw.inOrder y.raw = true) xs ys := by
  induction xs generalizing ys with
  | nil =>
    cases ys with
    | nil => exact .nil
    | cons y ys => cases same
  | cons x xs ih =>
    cases ys with
    | nil => cases same
    | cons y ys =>
      obtain ⟨head, tail⟩ := Bool.and_eq_true_iff.1 same
      obtain ⟨name, value⟩ := Bool.and_eq_true_iff.1 head
      exact .cons ⟨eq_of_beq name, value⟩ (ih tail)

structure Descends (ordered : Bool) (same : Json → Json → Prop) : Prop where
  kind {x y : Json} : same x y → x.kind = y.kind
  boolean {flag flag' : Bool} : same (.boolean flag) (.boolean flag') → flag = flag'
  number {value value' : Number} : same (.number value) (.number value') →
    value.sameForm value' = true
  string {text text' : String} : same (.string text) (.string text') → text = text'
  array {elements elements' : List Json} : same (.array elements) (.array elements') →
    List.Forall₂ same elements elements'
  object {members members' : List (String × Json)}
    {distinct : (members.map Prod.fst).Nodup} {distinct' : (members'.map Prod.fst).Nodup} :
    same (.object members distinct) (.object members' distinct') →
      (∀ name, Option.Rel same (members.lookup name) (members'.lookup name)) ∧
        (ordered = true → members.map Prod.fst = members'.map Prod.fst)

-- The kinds agree, so only values of one shape have to be compared.
theorem Descends.alike {same : Json → Json → Prop} (descends : Descends ordered same) {x y : Json}
    (related : same x y) : Alike ordered x y := by
  induction x using contentInduction generalizing y with
  | step x elementsAlike membersAlike =>
    have sameKind := descends.kind related
    cases x using shapes with
    | null => cases y using shapes with
      | null => exact .null
      | _ => cases sameKind
    | boolean flag => cases y using shapes with
      | boolean flag' =>
        cases descends.boolean related
        exact .boolean flag
      | _ => cases sameKind
    | number value => cases y using shapes with
      | number value' => exact .number (descends.number related)
      | _ => cases sameKind
    | string text => cases y using shapes with
      | string text' =>
        cases descends.string related
        exact .string text
      | _ => cases sameKind
    | array elements => cases y using shapes with
      | array elements' =>
        rw [elements_array] at elementsAlike
        apply Alike.array
        exact forall₂_mono (descends.array related) fun element member _ =>
          elementsAlike element member
      | _ => cases sameKind
    | object members distinct => cases y using shapes with
      | object members' distinct' =>
        rw [members_object] at membersAlike
        obtain ⟨byName, inOrder⟩ := descends.object related
        refine .object (fun name => ?_) inOrder
        exact lookup_mono (byName name) fun member inside _ => membersAlike member inside
      | _ => cases sameKind

theorem kind_of_equalBy {numbers : Number → Number → Bool} {x y : Json}
    (same : x.equalBy numbers y = true) : x.kind = y.kind := by
  cases x using shapes <;> cases y using shapes <;> first | rfl | cases same

theorem descends_sameForm : Descends false fun x y => x.sameForm y = true where
  kind := kind_of_equalBy
  boolean := eq_of_beq
  number := id
  string := eq_of_beq
  array := equalBy_array.1
  object same := ⟨(equalBy_object _ _).1 same, nofun⟩

theorem descends_inOrder : Descends true fun x y => x.raw.inOrder y.raw = true where
  kind {x y} same := by
    cases x using shapes <;> cases y using shapes <;> first | rfl | cases same
  boolean := eq_of_beq
  number := id
  string := eq_of_beq
  array := forall₂_of_elementsInOrder
  object same :=
    have related := forall₂_of_membersInOrder same
    ⟨lookup_of_forall₂ related, fun _ => names_of_forall₂ related⟩

theorem alike_of_alike {x y : Json} (same : alike ordered x y = true) : Alike ordered x y := by
  cases ordered with
  | false => exact descends_sameForm.alike same
  | true => exact descends_inOrder.alike same

end DocQuery.Json
