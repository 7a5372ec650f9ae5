import DocQuery.Json.Fingerprint
import DocQuery.Proofs.Members

/-! Data that tell where they end.

Where a longer sequence begins with the data of one of several items, it tells where these data end,
and which item it is, or as much of that as the data tell.
-/

set_option autoImplicit false

namespace DocQuery.Datum

variable {α : Type} {data : α → List Datum} {relation : α → α → Prop}

/-- Two sequences that begin with the data of an item and of another one, and are the same, go on in
the same way, and the items are related. -/
def Delimited (data : α → List Datum) (relation : α → α → Prop) (item : α) : Prop :=
  ∀ ⦃other : α⦄ ⦃rest rest' : List Datum⦄,
    data item ++ rest = data other ++ rest' → relation item other ∧ rest = rest'

theorem delimited_bound (limit : Option Int64) : Delimited bound Eq limit := by
  intro other rest rest' same
  cases limit with
  | none => cases other with
    | none => exact ⟨rfl, (List.cons.inj same).2⟩
    | some value' => cases (List.cons.inj same).1
  | some value => cases other with
    | none => cases (List.cons.inj same).1
    | some value' =>
      obtain ⟨values, rests⟩ := List.cons.inj (List.cons.inj same).2
      exact ⟨congrArg some (Datum.integer.inj values), rests⟩

theorem Delimited.named {member : String × α} (delimited : Delimited data relation member.2) :
    Delimited (fun member => .text member.1 :: data member.2) (MemberRelated relation) member := by
  intro other rest rest' same
  obtain ⟨names, later⟩ := List.cons.inj same
  obtain ⟨values, rests⟩ := delimited later
  exact ⟨⟨Datum.text.inj names, values⟩, rests⟩

theorem pair_unique {mark mark' : Datum} {first second first' second' : α}
    {rest rest' : List Datum} (head : Delimited data relation first)
    (tail : Delimited data relation second)
    (same : mark :: data first ++ data second ++ rest =
      mark' :: data first' ++ data second' ++ rest') :
    relation first first' ∧ relation second second' ∧ rest = rest' := by
  simp only [List.cons_append, List.append_assoc] at same
  obtain ⟨firsts, later⟩ := head (List.cons.inj same).2
  obtain ⟨seconds, rests⟩ := tail later
  exact ⟨firsts, seconds, rests⟩

section

variable {items items' : List α} (delimited : ∀ item ∈ items, Delimited data relation item)
  {rest rest' : List Datum}

include delimited

theorem flatMap_unique (length : items.length = items'.length)
    (same : items.flatMap data ++ rest = items'.flatMap data ++ rest') :
    List.Forall₂ relation items items' ∧ rest = rest' := by
  induction items generalizing items' with
  | nil => cases items' with
    | nil => exact ⟨.nil, same⟩
    | cons item' items' => cases length
  | cons item items ih => cases items' with
    | nil => cases length
    | cons item' items' =>
      rw [List.flatMap_cons, List.flatMap_cons, List.append_assoc, List.append_assoc] at same
      obtain ⟨head, later⟩ := delimited item List.mem_cons_self same
      obtain ⟨tail, rests⟩ := ih (fun item member => delimited item (.tail _ member))
        (Nat.succ.inj length) later
      exact ⟨.cons head tail, rests⟩

theorem counted_unique
    (same : .length items.length :: (items.flatMap data ++ rest) =
      .length items'.length :: (items'.flatMap data ++ rest')) :
    List.Forall₂ relation items items' ∧ rest = rest' := by
  obtain ⟨lengths, later⟩ := List.cons.inj same
  exact flatMap_unique delimited (Datum.length.inj lengths) later

end

end DocQuery.Datum
