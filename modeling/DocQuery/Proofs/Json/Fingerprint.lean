import DocQuery.Json.Fingerprint
import DocQuery.Proofs.Json.Equality

/-! The data of equal JSON values.

Members are taken in the order of their names, so the order in which they stand leaves no trace.
Numbers are taken as written, and equal ones are written alike but for the signs of zeros.
-/

set_option autoImplicit false

namespace DocQuery

-- Lists of one length that are equal if and only if a condition holds.
structure EqualIff {α : Type} (first second : List α) (condition : Prop) : Prop where
  length : first.length = second.length
  equal_iff : first = second ↔ condition

namespace EqualIff

variable {α β : Type} {first second first' second' : List α} {condition condition' : Prop}

theorem refl (items : List α) : EqualIff items items True :=
  ⟨rfl, iff_of_true rfl trivial⟩

theorem congr (equalIff : EqualIff first second condition) (same : condition ↔ condition') :
    EqualIff first second condition' :=
  ⟨equalIff.length, equalIff.equal_iff.trans same⟩

theorem fixed [BEq β] [LawfulBEq β] (items : List α) (constant : β) :
    EqualIff items items ((constant == constant) = true) :=
  (refl items).congr (iff_of_true trivial (beq_self_eq_true constant))

theorem singleton {item item' : α} : EqualIff [item] [item'] (item = item') :=
  ⟨rfl, by simp⟩

theorem append (head : EqualIff first second condition)
    (tail : EqualIff first' second' condition') :
    EqualIff (first ++ first') (second ++ second') (condition ∧ condition') := by
  constructor
  · rw [List.length_append, List.length_append, head.length, tail.length]
  · rw [← head.equal_iff, ← tail.equal_iff]
    constructor
    · exact fun same => List.append_inj same head.length
    · rintro ⟨rfl, rfl⟩
      rfl

theorem and {check check' : Bool} (head : EqualIff first second (check = true))
    (tail : EqualIff first' second' (check' = true)) :
    EqualIff (first ++ first') (second ++ second') ((check && check') = true) :=
  (head.append tail).congr Bool.and_eq_true_iff.symm

theorem cons (item : α) (tail : EqualIff first second condition) :
    EqualIff (item :: first) (item :: second) condition :=
  ((refl [item]).append tail).congr (iff_of_eq (true_and _))

theorem flatMap {γ : Type} {relation : β → γ → Prop} {data : β → List α} {data' : γ → List α}
    {items : List β} {others : List γ}
    (parts : List.Forall₂ (fun item other => EqualIff (data item) (data' other)
      (relation item other)) items others) :
    EqualIff (items.flatMap data) (others.flatMap data') (List.Forall₂ relation items others) := by
  induction parts with
  | nil => exact (refl []).congr (iff_of_true trivial .nil)
  | cons head _ ih =>
    rw [List.flatMap_cons, List.flatMap_cons]
    exact (head.append ih).congr List.forall₂_cons.symm

end EqualIff

namespace Json

section

variable {α β : Type} {relation : α → β → Prop}

def sortMembers (members : List (String × α)) : List (String × α) :=
  members.foldr (fun member sorted => insertSorted member.1 member.2 sorted) []

theorem insertSorted_perm (name : String) (value : α) (members : List (String × α)) :
    (insertSorted name value members).Perm ((name, value) :: members) := by
  induction members with
  | nil => exact .refl _
  | cons member rest ih =>
    obtain ⟨first, other⟩ := member
    rw [insertSorted]
    split
    · exact (ih.cons _).trans (.swap ..)
    · exact .refl _

theorem sortMembers_perm (members : List (String × α)) : (sortMembers members).Perm members := by
  induction members with
  | nil => exact .refl _
  | cons member rest ih => exact (insertSorted_perm ..).trans (ih.cons _)

theorem sorted_insertSorted (name : String) (value : α) {members : List (String × α)}
    (sorted : members.Pairwise fun first second => first.1 ≤ second.1) :
    (insertSorted name value members).Pairwise fun first second => first.1 ≤ second.1 := by
  induction members with
  | nil => exact List.pairwise_singleton _ _
  | cons member rest ih =>
    obtain ⟨least, others⟩ := List.pairwise_cons.1 sorted
    rw [insertSorted]
    split
    · next less =>
      refine List.pairwise_cons.2 ⟨fun other inside => ?_, ih others⟩
      rcases List.mem_cons.1 ((insertSorted_perm ..).mem_iff.1 inside) with rfl | known
      · exact String.not_lt.1 (String.lt_asymm less)
      · exact least other known
    · next notLess =>
      refine List.pairwise_cons.2 ⟨fun other inside => ?_, sorted⟩
      rcases List.mem_cons.1 inside with rfl | known
      · exact String.not_lt.1 notLess
      · exact String.le_trans (String.not_lt.1 notLess) (least other known)

theorem sorted_sortMembers (members : List (String × α)) :
    (sortMembers members).Pairwise fun first second => first.1 ≤ second.1 := by
  induction members with
  | nil => exact .nil
  | cons member rest ih => exact sorted_insertSorted _ _ ih

-- Names have one order, so two sorted lists of the same names are the same.
theorem map_fst_sortMembers {members : List (String × α)} {others : List (String × β)}
    (perm : (members.map Prod.fst).Perm (others.map Prod.fst)) :
    (sortMembers members).map Prod.fst = (sortMembers others).map Prod.fst := by
  have sorted := List.pairwise_map.2 (sorted_sortMembers members)
  have sorted' := List.pairwise_map.2 (sorted_sortMembers others)
  have names := ((sortMembers_perm members).map Prod.fst).trans
    (perm.trans ((sortMembers_perm others).map Prod.fst).symm)
  exact names.eq_of_pairwise (fun _ _ _ _ => String.le_antisymm) sorted sorted'

theorem forall₂_sortMembers_iff {members : List (String × α)} {others : List (String × β)}
    (distinct : (members.map Prod.fst).Nodup) (distinct' : (others.map Prod.fst).Nodup) :
    List.Forall₂ (MemberRelated relation) (sortMembers members) (sortMembers others) ↔
      ∀ name, Option.Rel relation (members.lookup name) (others.lookup name) := by
  have known := lookup_eq_of_perm distinct (sortMembers_perm members)
  have known' := lookup_eq_of_perm distinct' (sortMembers_perm others)
  constructor
  · intro related name
    rw [← known, ← known']
    exact lookup_of_forall₂ related name
  · intro related
    have names := map_fst_sortMembers (perm_names_of_lookup distinct distinct' related)
    have sorted := ((sortMembers_perm members).map Prod.fst).nodup_iff.2 distinct
    apply forall₂_of_lookup sorted names
    intro name
    rw [known, known']
    exact related name

end

theorem equalBy_object_iff_sorted {numbers : Number → Number → Bool}
    {members others : List (String × Json)} (distinct : (members.map Prod.fst).Nodup)
    (distinct' : (others.map Prod.fst).Nodup) :
    (object members distinct).equalBy numbers (object others distinct') = true ↔
      List.Forall₂ (MemberRelated fun x y => x.equalBy numbers y = true) (sortMembers members)
        (sortMembers others) :=
  (equalBy_object distinct distinct').trans (forall₂_sortMembers_iff distinct distinct').symm

theorem elementFingerprints_eq (elements : List Json) :
    Raw.elementFingerprints (elements.map raw) = elements.flatMap fingerprint := by
  induction elements with
  | nil => rfl
  | cons element rest ih =>
    rw [List.map_cons, Raw.elementFingerprints, ih, List.flatMap_cons]
    rfl

theorem insertSorted_map {α β : Type} (change : α → β) (name : String) (value : α)
    (members : List (String × α)) :
    insertSorted name (change value) (members.map fun member => (member.1, change member.2)) =
      (insertSorted name value members).map fun member => (member.1, change member.2) := by
  induction members with
  | nil => rfl
  | cons member rest ih =>
    rw [List.map_cons, insertSorted, insertSorted, ih]
    split <;> rfl

theorem memberFingerprints_eq (members : List (String × Json)) :
    Raw.memberFingerprints (members.map fun member => (member.1, member.2.raw)) =
      (sortMembers members).map fun member => (member.1, member.2.fingerprint) := by
  induction members with
  | nil => rfl
  | cons member rest ih =>
    rw [List.map_cons, Raw.memberFingerprints, ih]
    exact insertSorted_map fingerprint member.1 member.2 (sortMembers rest)

theorem fingerprint_array (elements : List Json) :
    (array elements).fingerprint =
      [.variant 4, .length elements.length] ++ elements.flatMap fingerprint := by
  rw [← elementFingerprints_eq, ← List.length_map (f := raw)]
  rfl

theorem fingerprint_object (members : List (String × Json))
    (distinct : (members.map Prod.fst).Nodup) :
    (object members distinct).fingerprint = [.variant 5, .length members.length] ++
      (sortMembers members).flatMap fun member => .text member.1 :: member.2.fingerprint := by
  have data := congrArg (List.flatMap fun member => Datum.text member.1 :: member.2)
    (memberFingerprints_eq members)
  rw [List.flatMap_map] at data
  rw [← data, ← List.length_map (f := fun member : String × Json => (member.1, member.2.raw))]
  rfl

end Json

namespace Binary64

theorem written_zero {x : Binary64} (zero : x.magnitude = 0) :
    x.written = if x.negative then ['-', '0', '.', '0'] else ['0', '.', '0'] := by
  simp [written, isNaN, isInfinite, infiniteMagnitude, zero]

theorem written_eq_iff_of_equal {x y : Binary64} (equal : x.equal y = true) :
    x.written = y.written ↔ x.negative = y.negative := by
  rcases eq_or_zero_of_key (equal_iff.1 equal).2.2 with rfl | ⟨zero, zero'⟩
  · exact iff_of_true rfl rfl
  · rw [written_zero zero, written_zero zero']
    cases x.negative <;> cases y.negative <;> decide

end Binary64

namespace Json

def Number.sameSigned (first second : Number) : Bool :=
  first.sameForm second && first.toBinary64.negative == second.toBinary64.negative

theorem Number.written_eq_iff_of_sameForm {first second : Number}
    (same : first.sameForm second = true) :
    first.written = second.written ↔ first.sameSigned second = true := by
  rw [sameSigned, same, Bool.true_and, beq_iff_eq]
  cases first with
  | integer value lower upper => cases second with
    | integer value' lower' upper' =>
      cases eq_of_sameForm_integer same
      exact iff_of_true rfl rfl
    | double value' finite' => cases same
  | double value finite => cases second with
    | integer value' lower' upper' => cases same
    | double value' finite' => exact Binary64.written_eq_iff_of_equal same

/-- Equality as written, up to the order of members but not up to the signs of zeros. -/
def sameSigned (x y : Json) : Bool := x.equalBy Number.sameSigned y

/-- Values that are equal as written have the same data if and only if their zeros have the same
signs. -/
theorem equalIff_fingerprint {x y : Json} (same : x.sameForm y = true) :
    EqualIff x.fingerprint y.fingerprint (x.sameSigned y = true) := by
  induction x using contentInduction generalizing y with
  | step x elementsAgree membersAgree =>
    have sameKind := kind_of_equalBy same
    cases x using shapes with
    | null => cases y using shapes with
      | null => exact (EqualIff.refl _).congr (iff_of_true trivial rfl)
      | _ => cases sameKind
    | boolean flag => cases y using shapes with
      | boolean flag' =>
        cases eq_of_beq same
        exact .fixed _ flag
      | _ => cases sameKind
    | number value => cases y using shapes with
      | number value' =>
        refine .cons _ (EqualIff.singleton.congr ?_)
        rw [Datum.text.injEq, String.ofList_inj]
        exact Number.written_eq_iff_of_sameForm same
      | _ => cases sameKind
    | string text => cases y using shapes with
      | string text' =>
        cases eq_of_beq same
        exact .fixed _ text
      | _ => cases sameKind
    | array items => cases y using shapes with
      | array items' =>
        rw [elements_array] at elementsAgree
        have related := equalBy_array.1 same
        rw [fingerprint_array, fingerprint_array, related.length_eq]
        refine .cons _ (.cons _ ((EqualIff.flatMap ?_).congr equalBy_array.symm))
        exact forall₂_mono related fun item member _ => elementsAgree item member
      | _ => cases sameKind
    | object entries distinct => cases y using shapes with
      | object entries' distinct' =>
        rw [members_object] at membersAgree
        have related := (equalBy_object_iff_sorted distinct distinct').1 same
        have length : entries.length = entries'.length := by
          rw [← (sortMembers_perm entries).length_eq, related.length_eq,
            (sortMembers_perm entries').length_eq]
        rw [fingerprint_object, fingerprint_object, length]
        refine .cons _ (.cons _ ((EqualIff.flatMap ?_).congr
          (equalBy_object_iff_sorted distinct distinct').symm))
        refine forall₂_mono related ?_
        rintro member inside other ⟨name, valueSame⟩
        rw [name]
        have agree := membersAgree member ((sortMembers_perm entries).mem_iff.1 inside) valueSame
        exact (agree.cons _).congr (and_iff_right name).symm
      | _ => cases sameKind

end Json

end DocQuery
