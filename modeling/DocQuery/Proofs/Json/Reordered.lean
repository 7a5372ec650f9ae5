import DocQuery.Proofs.Delimited
import DocQuery.Proofs.Json.Fingerprint
import DocQuery.Proofs.Json.Written

/-! The data of a JSON value tell the value, up to the order of members.

Every variant is marked, and a list is preceded by its length, so the data tell where they end.
-/

set_option autoImplicit false

namespace DocQuery.Json

open DocQuery.Datum

/-- The same value, but that the members of objects at any depth may stand in another order. -/
inductive Reordered : Json → Json → Prop where
  | null : Reordered .null .null
  | boolean (flag : Bool) : Reordered (.boolean flag) (.boolean flag)
  | number (value : Number) : Reordered (.number value) (.number value)
  | string (text : String) : Reordered (.string text) (.string text)
  | array {elements elements' : List Json} : List.Forall₂ Reordered elements elements' →
      Reordered (.array elements) (.array elements')
  | object {members members' : List (String × Json)}
      {distinct : (members.map Prod.fst).Nodup} {distinct' : (members'.map Prod.fst).Nodup} :
      (∀ name, Option.Rel Reordered (members.lookup name) (members'.lookup name)) →
      Reordered (.object members distinct) (.object members' distinct')

theorem Reordered.refl (value : Json) : Reordered value value := by
  induction value using contentInduction with
  | step value elementsSame membersSame =>
    cases value using shapes with
    | null => exact .null
    | boolean flag => exact .boolean flag
    | number value => exact .number value
    | string text => exact .string text
    | array elements =>
      rw [elements_array] at elementsSame
      exact .array (List.forall₂_same.2 elementsSame)
    | object members distinct =>
      rw [members_object] at membersSame
      refine .object fun name => ?_
      cases found : members.lookup name with
      | none => exact .none
      | some value => exact .some (membersSame _ (mem_of_lookup found))

-- The members of an object may come in whatever order.
theorem Reordered.of_perm {members members' : List (String × Json)}
    (perm : members.Perm members') (distinct : (members.map Prod.fst).Nodup)
    (distinct' : (members'.map Prod.fst).Nodup) :
    Reordered (.object members distinct) (.object members' distinct') := by
  refine .object fun name => ?_
  rw [lookup_eq_of_perm distinct' perm]
  cases members'.lookup name with
  | none => exact .none
  | some value => exact .some (.refl value)

theorem Reordered.equalBy {numbers : Number → Number → Bool}
    (reflexive : ∀ value, numbers value value = true) {x y : Json} (reordered : Reordered x y) :
    x.equalBy numbers y = true := by
  induction x using contentInduction generalizing y with
  | step x elementsEqual membersEqual =>
    cases reordered with
    | null => rfl
    | boolean flag => exact beq_self_eq_true flag
    | number value => exact reflexive value
    | string text => exact beq_self_eq_true text
    | array related =>
      rw [elements_array] at elementsEqual
      apply equalBy_array.2
      exact forall₂_mono related fun element member _ => elementsEqual element member
    | @object _ _ distinct distinct' byName =>
      rw [members_object] at membersEqual
      apply (equalBy_object distinct distinct').2
      intro name
      exact lookup_mono (byName name) fun member inside _ => membersEqual member inside

theorem fingerprint_opens (value : Json) :
    ∃ inner, value.fingerprint = .variant value.raw.ctorIdx :: inner := by
  cases value using shapes <;> exact ⟨_, rfl⟩

theorem kind_eq_of_data {first second : Json} {rest rest' : List Datum}
    (same : first.fingerprint ++ rest = second.fingerprint ++ rest') :
    first.kind = second.kind := by
  obtain ⟨inner, opens⟩ := first.fingerprint_opens
  obtain ⟨inner', opens'⟩ := second.fingerprint_opens
  rw [opens, opens'] at same
  have variants := Datum.variant.inj (List.cons.inj same).1
  cases first using shapes <;> cases second using shapes <;> first | rfl | cases variants

-- The kinds agree, so only values of one shape have to be told apart.
theorem delimited_fingerprint (value : Json) : Delimited fingerprint Reordered value := by
  induction value using contentInduction with
  | step value elementsDelimited membersDelimited =>
    intro other rest rest' same
    have sameKind := kind_eq_of_data same
    cases value using shapes with
    | null => cases other using shapes with
      | null => exact ⟨.null, (List.cons.inj same).2⟩
      | _ => cases sameKind
    | boolean flag => cases other using shapes with
      | boolean flag' =>
        obtain ⟨marks, rests⟩ := List.cons.inj (List.cons.inj same).2
        have flags : flag = flag' := by
          cases flag <;> cases flag' <;> first | rfl | cases marks
        cases flags
        exact ⟨.boolean flag, rests⟩
      | _ => cases sameKind
    | number value => cases other using shapes with
      | number value' =>
        obtain ⟨texts, rests⟩ := List.cons.inj (List.cons.inj same).2
        cases Number.written_injective (String.ofList_inj.1 (Datum.text.inj texts))
        exact ⟨.number value, rests⟩
      | _ => cases sameKind
    | string text => cases other using shapes with
      | string text' =>
        obtain ⟨texts, rests⟩ := List.cons.inj (List.cons.inj same).2
        cases texts
        exact ⟨.string text, rests⟩
      | _ => cases sameKind
    | array elements => cases other using shapes with
      | array elements' =>
        rw [elements_array] at elementsDelimited
        rw [fingerprint_array, fingerprint_array] at same
        obtain ⟨related, rests⟩ := counted_unique elementsDelimited (List.cons.inj same).2
        exact ⟨.array related, rests⟩
      | _ => cases sameKind
    | object members distinct => cases other using shapes with
      | object members' distinct' =>
        rw [members_object] at membersDelimited
        rw [fingerprint_object, fingerprint_object, ← (sortMembers_perm members).length_eq,
          ← (sortMembers_perm members').length_eq] at same
        -- The data are those of the sorted members, in which the order of members is lost.
        have delimited (member : String × Json) (inside : member ∈ sortMembers members) :=
          (membersDelimited member ((sortMembers_perm members).mem_iff.1 inside)).named
        obtain ⟨related, rests⟩ := counted_unique delimited (List.cons.inj same).2
        exact ⟨.object ((forall₂_sortMembers_iff distinct distinct').1 related), rests⟩
      | _ => cases sameKind

end DocQuery.Json
