import Mathlib.Data.List.Induction
import DocQuery.Json.Binding
import DocQuery.Proofs.Json.Structure

/-! Objects of members that are set one after the other.

A name keeps the place at which it is set first, and has the value that is set last.
-/

set_option autoImplicit false

namespace DocQuery.Json

theorem collectMembers_concat (members : List (String × Json)) (member : String × Json) :
    collectMembers (members ++ [member]) =
      insertMember (collectMembers members) member.1 member.2 := by
  rw [collectMembers, List.foldl_append]
  rfl

theorem map_fst_collectMembers (members : List (String × Json)) :
    (collectMembers members).map Prod.fst = (members.map Prod.fst).eraseDups := by
  induction members using List.reverseRecOn with
  | nil => rfl
  | append_singleton members member ih =>
    rw [collectMembers_concat, map_fst_insertMember, ih, List.map_append, List.eraseDups_append]
    by_cases known : member.1 ∈ members.map Prod.fst
    · simp [known, List.removeAll]
    · simp [known, List.removeAll, List.eraseDups_cons]

theorem lookup_collectMembers (members : List (String × Json)) (name : String) :
    (collectMembers members).lookup name = members.reverse.lookup name := by
  induction members using List.reverseRecOn with
  | nil => rfl
  | append_singleton members member ih =>
    rw [collectMembers_concat, lookup_insertMember, ih, List.reverse_concat, List.lookup_cons]
    by_cases same : name = member.1
    · rw [if_pos same, beq_iff_eq.2 same]
    · rw [if_neg same, beq_eq_false_iff_ne.2 same]

theorem members_ofMembers (members : List (String × Json)) :
    (ofMembers members).members = collectMembers members :=
  members_object _ (nodup_collectMembers members)

theorem propertyNames_ofMembers (members : List (String × Json)) :
    binding.propertyNames (ofMembers members) = (members.map Prod.fst).eraseDups := by
  change (ofMembers members).members.map Prod.fst = _
  rw [members_ofMembers, map_fst_collectMembers]

theorem property_ofMembers (members : List (String × Json)) (name : String) :
    (ofMembers members).property name = (members.reverse.lookup name).getD null := by
  rw [property, members_ofMembers, lookup_collectMembers]

end DocQuery.Json
