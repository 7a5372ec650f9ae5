import DocQuery.Proofs.Json.Alike
import DocQuery.Proofs.Json.Parts

/-! The laws of the equalities of JSON values, from the same laws for numbers.

An equality is the greatest relation that descends from values to what they are made of, down to
numbers that are equal. Whatever descends in this way therefore implies it, and each law names the
relation that does.
-/

set_option autoImplicit false

namespace DocQuery.Json

/-- A relation that descends to elements, to members of the same name, and to a relation of
numbers. -/
structure DescendsTo (numbers : Number → Number → Bool) (same : Json → Json → Prop) : Prop where
  kind {x y : Json} : same x y → x.kind = y.kind
  boolean {flag flag' : Bool} : same (.boolean flag) (.boolean flag') → flag = flag'
  number {value value' : Number} : same (.number value) (.number value') →
    numbers value value' = true
  string {text text' : String} : same (.string text) (.string text') → text = text'
  elements {x y : Json} : same x y → List.Forall₂ same x.elements y.elements
  members {x y : Json} : same x y → ∀ name,
    Option.Rel same (x.members.lookup name) (y.members.lookup name)

variable {numbers : Number → Number → Bool}

theorem DescendsTo.equalBy {same : Json → Json → Prop} (descends : DescendsTo numbers same)
    {x y : Json} (related : same x y) : x.equalBy numbers y = true := by
  induction x using contentInduction generalizing y with
  | step x elementsEqual membersEqual =>
    have sameKind := descends.kind related
    have elements : List.Forall₂ (fun x y => x.equalBy numbers y = true) x.elements y.elements :=
      forall₂_mono (descends.elements related) fun element member _ => elementsEqual element member
    have members (name : String) : Option.Rel (fun x y => x.equalBy numbers y = true)
        (x.members.lookup name) (y.members.lookup name) :=
      lookup_mono (descends.members related name) fun member inside _ => membersEqual member inside
    cases x using shapes with
    | null => cases y using shapes with
      | null => rfl
      | _ => cases sameKind
    | boolean flag => cases y using shapes with
      | boolean flag' =>
        cases descends.boolean related
        exact beq_self_eq_true flag
      | _ => cases sameKind
    | number value => cases y using shapes with
      | number value' => exact descends.number related
      | _ => cases sameKind
    | string text => cases y using shapes with
      | string text' =>
        cases descends.string related
        exact beq_self_eq_true text
      | _ => cases sameKind
    | array items => cases y using shapes with
      | array items' =>
        rw [elements_array, elements_array] at elements
        exact equalBy_array.2 elements
      | _ => cases sameKind
    | object entries distinct => cases y using shapes with
      | object entries' distinct' =>
        rw [members_object, members_object] at members
        exact (equalBy_object distinct distinct').2 members
      | _ => cases sameKind

theorem descendsTo_equalBy : DescendsTo numbers fun x y => x.equalBy numbers y = true where
  kind := kind_of_equalBy
  boolean := eq_of_beq
  number := id
  string := eq_of_beq
  elements {x y} same := by
    have sameKind := kind_of_equalBy same
    cases x using shapes with
    | array items => cases y using shapes with
      | array items' =>
        rw [elements_array, elements_array]
        exact equalBy_array.1 same
      | _ => cases sameKind
    | _ => cases y using shapes with
      | array items' => cases sameKind
      | _ => exact .nil
  members {x y} same name := by
    have sameKind := kind_of_equalBy same
    cases x using shapes with
    | object entries distinct => cases y using shapes with
      | object entries' distinct' =>
        rw [members_object, members_object]
        exact (equalBy_object distinct distinct').1 same name
      | _ => cases sameKind
    | _ => cases y using shapes with
      | object entries' distinct' => cases sameKind
      | _ => exact .none

theorem equalBy_self (reflexive : ∀ value, numbers value value = true) (x : Json) :
    x.equalBy numbers x = true := by
  have descends : DescendsTo numbers Eq := by
    refine ⟨fun same => same ▸ rfl, ?_, ?_, ?_, fun same => same ▸ List.forall₂_refl _, ?_⟩
    · rintro flag _ ⟨⟩
      rfl
    · rintro value _ ⟨⟩
      exact reflexive value
    · rintro text _ ⟨⟩
      rfl
    · rintro x _ rfl name
      cases x.members.lookup name with
      | none => exact .none
      | some value => exact .some rfl
  exact descends.equalBy rfl

theorem equalBy_symm (symmetric : ∀ first second, numbers first second = numbers second first)
    {x y : Json} (same : x.equalBy numbers y = true) : y.equalBy numbers x = true := by
  have descends : DescendsTo numbers fun x y => y.equalBy numbers x = true := by
    refine ⟨fun same => (kind_of_equalBy same).symm, fun same => (eq_of_beq same).symm, ?_,
      fun same => (eq_of_beq same).symm, fun same => (descendsTo_equalBy.elements same).flip,
      fun same name => rel_flip (descendsTo_equalBy.members same name)⟩
    intro value value' same
    rw [symmetric]
    exact same
  exact descends.equalBy same

theorem equalBy_comm (symmetric : ∀ first second, numbers first second = numbers second first)
    (x y : Json) : x.equalBy numbers y = y.equalBy numbers x :=
  Bool.eq_iff_iff.2 ⟨equalBy_symm symmetric, equalBy_symm symmetric⟩

/-- Values that are equal by one relation of numbers are equal by another that holds of as many of
the numbers inside them. -/
theorem equalBy_of_inside {numbers' : Number → Number → Bool} {x y : Json}
    (same : x.equalBy numbers y = true)
    (implies : ∀ first second, Inside (number first) x → Inside (number second) y →
      numbers first second = true → numbers' first second = true) :
    x.equalBy numbers' y = true := by
  let Implied (x y : Json) : Prop := ∀ first second, Inside (number first) x →
    Inside (number second) y → numbers first second = true → numbers' first second = true
  -- What is inside a part is inside the whole, so the implication descends along with equality.
  have descends : DescendsTo numbers' fun x y => x.equalBy numbers y = true ∧ Implied x y := by
    refine ⟨fun both => kind_of_equalBy both.1, fun both => eq_of_beq both.1,
      fun both => both.2 _ _ .self .self both.1, fun both => eq_of_beq both.1, ?_, ?_⟩
    · rintro x y ⟨same, implied⟩
      apply (forall₂_congr_of_mem fun element member element' member' => ?_).1
        (descendsTo_equalBy.elements same)
      refine (and_iff_left ?_).symm
      exact fun first second inside inside' =>
        implied first second (.element member inside) (.element member' inside')
    · rintro x y ⟨same, implied⟩ name
      apply (rel_congr_of_eq fun value found value' found' => ?_).1
        (descendsTo_equalBy.members same name)
      refine (and_iff_left ?_).symm
      exact fun first second inside inside' =>
        implied first second (.member (mem_of_lookup found) inside)
          (.member (mem_of_lookup found') inside')
  exact descends.equalBy ⟨same, implies⟩

end DocQuery.Json
