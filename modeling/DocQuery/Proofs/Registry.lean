import Mathlib.Data.Set.Card
import DocQuery.Library

/-! A registry stands for a table of functions by name, to which functions are written.

Writing changes the entry of the written function's name and no other. After any additions the table
therefore holds, under each name, the function of that name that was added last; and since functions
are kept in the order of their names, what lists and counts them says which entries there are.
-/

set_option autoImplicit false

namespace DocQuery

variable {V : Type}

namespace Registry

theorem find?_cons_name (first : Function V) (rest : List (Function V)) (name : String) :
    (first :: rest).find? (·.name == name) =
      if name = first.name then some first else rest.find? (·.name == name) := by
  rw [List.find?_cons]
  by_cases same : name = first.name
  · rw [if_pos same, beq_iff_eq.2 same.symm]
  · rw [if_neg same, beq_eq_false_iff_ne.2 (Ne.symm same)]

-- The name asked for is that of one of the two functions at most.
theorem find?_place (function : Function V) (functions : List (Function V)) (name : String) :
    (place function functions).find? (·.name == name) =
      if name = function.name then some function else functions.find? (·.name == name) := by
  induction functions with
  | nil => exact find?_cons_name function [] name
  | cons first rest ih =>
    rw [place]
    split
    · exact find?_cons_name function (first :: rest) name
    split
    · next replaced =>
      rw [find?_cons_name, find?_cons_name, replaced]
      split <;> rfl
    · next different =>
      rw [find?_cons_name, find?_cons_name, ih]
      by_cases found : name = first.name
      · rw [if_pos found, if_neg fun same => different (same.symm.trans found), if_pos found]
      · rw [if_neg found, if_neg found]

theorem lookup_register (registry : Registry V) (function : Function V) :
    (registry.register function).lookup =
      Function.update registry.lookup function.name (some function) := by
  funext name
  rw [Function.update_apply]
  exact find?_place function registry.functions name

theorem mem_names_iff {registry : Registry V} {name : String} :
    name ∈ registry.names ↔ (registry.lookup name).isSome = true := by
  rw [lookup, List.find?_isSome, names, List.mem_map]
  exact exists_congr fun function => and_congr_right fun _ => beq_iff_eq.symm

theorem ascending_names (registry : Registry V) : registry.names.Pairwise (· < ·) :=
  List.pairwise_map.2 registry.ascending

theorem nodup_names (registry : Registry V) : registry.names.Nodup :=
  registry.ascending_names.imp fun less => String.ne_of_lt less

/-- In whatever order the names of a table are collected, sorting them gives those of the
registry. -/
theorem names_eq_mergeSort (registry : Registry V) {collected : List String}
    (distinct : collected.Nodup)
    (entries : ∀ name, name ∈ collected ↔ (registry.lookup name).isSome = true) :
    registry.names = collected.mergeSort := by
  have perm : registry.names.Perm collected.mergeSort := by
    refine .trans ?_ (List.mergeSort_perm collected _).symm
    apply (List.perm_ext_iff_of_nodup registry.nodup_names distinct).2
    intro name
    rw [mem_names_iff, entries]
  have sorted : collected.mergeSort.Pairwise (· ≤ ·) :=
    List.pairwise_mergeSort' (· ≤ ·) collected
  exact perm.eq_of_pairwise (fun _ _ _ _ => String.le_antisymm)
    (registry.ascending_names.imp fun less => String.not_lt.1 (String.lt_asymm less)) sorted

theorem size_eq_ncard (registry : Registry V) :
    registry.size = {name | (registry.lookup name).isSome = true}.ncard := by
  have listed : {name | (registry.lookup name).isSome = true} = ↑registry.names.toFinset := by
    ext name
    rw [Set.mem_ofPred_eq, ← mem_names_iff, List.coe_toFinset, Set.mem_ofPred_eq]
  rw [listed, Set.ncard_coe_finset, List.toFinset_card_of_nodup registry.nodup_names, names,
    List.length_map, size]

theorem isEmpty_iff {registry : Registry V} :
    registry.isEmpty = true ↔ ∀ name, registry.lookup name = none := by
  rw [isEmpty, List.isEmpty_iff]
  constructor
  · intro empty name
    rw [lookup, empty, List.find?_nil]
  · intro missing
    rw [List.eq_nil_iff_forall_not_mem]
    intro function member
    exact List.find?_eq_none.1 (missing function.name) function member (beq_self_eq_true _)

end Registry

/-- What is done to a registry: one function is added, or several in turn. -/
inductive Addition (V : Type) where
  | register (function : Function V)
  | registerShared (function : Function V)
  | extend (functions : List (Function V))

namespace Addition

def apply (registry : Registry V) : Addition V → Registry V
  | .register function => registry.register function
  | .registerShared function => registry.registerShared function
  | .extend functions => registry.extend functions

def functions : Addition V → List (Function V)
  | .register function | .registerShared function => [function]
  | .extend functions => functions

theorem apply_eq_extend (registry : Registry V) (addition : Addition V) :
    addition.apply registry = registry.extend addition.functions := by
  cases addition <;> rfl

end Addition

/-- One of a list of functions, after which there is none of its name. -/
def IsLast (functions : List (Function V)) (function : Function V) : Prop :=
  ∃ before after, functions = before ++ function :: after ∧
    ∀ later ∈ after, later.name ≠ function.name

theorem isLast_concat_iff {functions : List (Function V)} {added function : Function V} :
    IsLast (functions ++ [added]) function ↔
      function = added ∨ function.name ≠ added.name ∧ IsLast functions function := by
  constructor
  · rintro ⟨before, after, parts, others⟩
    rcases List.eq_nil_or_concat after with rfl | ⟨after, last, rfl⟩
    · obtain ⟨-, same⟩ := List.append_inj' parts rfl
      exact .inl (List.singleton_inj.1 same).symm
    · rw [List.concat_eq_append, ← List.cons_append, ← List.append_assoc] at parts
      obtain ⟨rfl, same⟩ := List.append_inj' parts rfl
      cases List.singleton_inj.1 same
      rw [List.concat_eq_append, List.forall_mem_append] at others
      exact .inr ⟨Ne.symm (others.2 added (List.mem_singleton_self _)), before, after, rfl,
        others.1⟩
  · rintro (rfl | ⟨different, before, after, rfl, others⟩)
    · exact ⟨functions, [], rfl, List.forall_mem_nil _⟩
    · refine ⟨before, after ++ [added], by simp, ?_⟩
      rw [List.forall_mem_append]
      exact ⟨others, List.forall_mem_singleton.2 (Ne.symm different)⟩

namespace Registry

def after (additions : List (Addition V)) : Registry V :=
  additions.foldl Addition.apply empty

theorem ofList_concat (functions : List (Function V)) (added : Function V) :
    ofList (functions ++ [added]) = (ofList functions).register added :=
  List.foldl_append

/-- Only the functions count, whether they are added alone or together. -/
theorem after_eq_ofList (additions : List (Addition V)) :
    after additions = ofList (additions.flatMap Addition.functions) := by
  unfold after ofList
  generalize empty = registry
  induction additions generalizing registry with
  | nil => rfl
  | cons addition rest ih =>
    rw [List.foldl_cons, ih, Addition.apply_eq_extend, List.flatMap_cons]
    exact List.foldl_append.symm

theorem lookup_ofList_eq_some_iff {functions : List (Function V)} {name : String}
    {function : Function V} :
    (ofList functions).lookup name = some function ↔
      function.name = name ∧ IsLast functions function := by
  induction functions using List.reverseRecOn with
  | nil =>
    refine iff_of_false nofun ?_
    rintro ⟨-, before, after, parts, -⟩
    exact absurd parts.symm (by simp)
  | append_singleton functions added ih =>
    rw [ofList_concat, lookup_register, Function.update_apply, isLast_concat_iff]
    by_cases same : name = added.name
    · rw [if_pos same, Option.some.injEq]
      constructor
      · rintro rfl
        exact ⟨same.symm, .inl rfl⟩
      · rintro ⟨rfl, rfl | ⟨different, -⟩⟩
        · rfl
        · exact absurd same different
    · rw [if_neg same, ih]
      refine and_congr_right ?_
      rintro rfl
      rw [or_iff_right fun equal => same (congrArg Function.name equal), and_iff_right same]

theorem lookup_ofList_eq_none_iff {functions : List (Function V)} {name : String} :
    (ofList functions).lookup name = none ↔ ∀ function ∈ functions, function.name ≠ name := by
  induction functions using List.reverseRecOn with
  | nil => exact iff_of_true rfl (List.forall_mem_nil _)
  | append_singleton functions added ih =>
    rw [ofList_concat, lookup_register, Function.update_apply, List.forall_mem_append, ← ih,
      List.forall_mem_singleton]
    by_cases same : name = added.name
    · simp [same]
    · simp [same, Ne.symm same]

/-- After any additions to an empty registry, a name has the function of that name that was added
last, and none if there is no such function. One more function changes the entry of its own name
alone, several make what they make one by one, and the observers tell which names have an entry. -/
theorem refines_table (additions : List (Addition V)) :
    let registry := after additions
    let added := additions.flatMap Addition.functions
    (∀ name function, registry.lookup name = some function ↔
      function.name = name ∧ IsLast added function) ∧
    (∀ name, registry.lookup name = none ↔ ∀ function ∈ added, function.name ≠ name) ∧
    (∀ function, (registry.register function).lookup =
      Function.update registry.lookup function.name (some function)) ∧
    (∀ functions, registry.extend functions =
      after (additions ++ functions.map Addition.register)) ∧
    registry.names.Pairwise (· < ·) ∧
    (∀ name, name ∈ registry.names ↔ (registry.lookup name).isSome = true) ∧
    registry.size = {name | (registry.lookup name).isSome = true}.ncard ∧
    (registry.isEmpty = true ↔ ∀ name, registry.lookup name = none) := by
  intro registry added
  have listed : registry = ofList added := after_eq_ofList additions
  refine ⟨?_, ?_, registry.lookup_register, ?_, registry.ascending_names, fun _ => mem_names_iff,
    registry.size_eq_ncard, isEmpty_iff⟩
  · intro name function
    rw [listed]
    exact lookup_ofList_eq_some_iff
  · intro name
    rw [listed]
    exact lookup_ofList_eq_none_iff
  · intro functions
    unfold after
    rw [List.foldl_append, List.foldl_map]
    rfl

def ignoring (name : String) (parameters : List Parameter) : Function Json :=
  Declaration.function ⟨name, .exact parameters, .null⟩

theorem refines_table_replaced :
    let additions := [.register (ignoring "b" []), .extend [ignoring "a" [], ignoring "b" [.any]]]
    (after additions).lookup "b" = some (ignoring "b" [.any]) ∧
      (after additions).lookup "c" = none ∧
      after additions = after ([.register (ignoring "b" [])] ++
        [ignoring "a" [], ignoring "b" [.any]].map Addition.register) := by
  intro additions
  have table := refines_table additions
  refine ⟨(table.1 _ _).2 ⟨rfl, [ignoring "b" [], ignoring "a" []], [], rfl, ?_⟩,
    (table.2.1 _).2 ?_, (refines_table [.register (ignoring "b" [])]).2.2.2.1 _⟩
  · exact List.forall_mem_nil _
  · simp [additions, Addition.functions, ignoring, Declaration.function]

end Registry

end DocQuery
