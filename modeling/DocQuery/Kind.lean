/-! The kinds of value a query can tell apart. -/

set_option autoImplicit false

namespace DocQuery

inductive Kind where
  | number
  | string
  | boolean
  | array
  | object
  | null
  | date
  deriving DecidableEq, Repr

namespace Kind

/-- Every kind once, in the order in which kinds are sorted. -/
def all : List Kind :=
  [.number, .string, .boolean, .array, .object, .null, .date]

def name : Kind → String
  | .number => "number"
  | .string => "string"
  | .boolean => "boolean"
  | .array => "array"
  | .object => "object"
  | .null => "null"
  | .date => "date"

def ofName? (text : String) : Option Kind :=
  all.find? (·.name == text)

def rank (kind : Kind) : Nat :=
  all.idxOf kind

instance : Ord Kind where
  compare first second := compare first.rank second.rank

theorem mem_all (kind : Kind) : kind ∈ all := by
  cases kind <;> decide

theorem rank_injective {first second : Kind} (same : first.rank = second.rank) :
    first = second := by
  revert same
  cases first <;> cases second <;> decide

@[simp] theorem ofName?_name (kind : Kind) : ofName? kind.name = some kind := by
  cases kind <;> rfl

def sorted (kinds : List Kind) : List Kind :=
  kinds.mergeSort fun first second => decide (first.rank ≤ second.rank)

def unrepeated : List Kind → List Kind
  | [] => []
  | [kind] => [kind]
  | first :: second :: rest =>
    if first = second then unrepeated (second :: rest)
    else first :: unrepeated (second :: rest)

theorem mem_unrepeated {kind : Kind} {kinds : List Kind} :
    kind ∈ unrepeated kinds ↔ kind ∈ kinds := by
  fun_induction unrepeated kinds with
  | case1 => rfl
  | case2 => rfl
  | case3 first rest ih => simp [ih]
  | case4 first second rest different ih => rw [List.mem_cons, ih, ← List.mem_cons]

/-- The kinds that occur in a list, each once and in order. -/
def distinct (kinds : List Kind) : List Kind :=
  unrepeated (sorted kinds)

@[simp] theorem mem_distinct {kind : Kind} {kinds : List Kind} :
    kind ∈ distinct kinds ↔ kind ∈ kinds := by
  rw [distinct, mem_unrepeated, sorted, List.mem_mergeSort]

theorem ascending_unrepeated {kinds : List Kind}
    (ordered : kinds.Pairwise fun first second => first.rank ≤ second.rank) :
    (unrepeated kinds).Pairwise fun first second => first.rank < second.rank := by
  fun_induction unrepeated kinds with
  | case1 => exact .nil
  | case2 kind => exact List.pairwise_singleton ..
  | case3 first rest ih => exact ih (List.pairwise_cons.1 ordered).2
  | case4 first second rest different ih =>
    obtain ⟨least, later⟩ := List.pairwise_cons.1 ordered
    refine List.pairwise_cons.2 ⟨fun other member => ?_, ih later⟩
    have before : first.rank < second.rank :=
      Nat.lt_of_le_of_ne (least second List.mem_cons_self) (mt rank_injective different)
    rcases List.mem_cons.1 (mem_unrepeated.1 member) with rfl | member
    · exact before
    · exact Nat.lt_of_lt_of_le before ((List.pairwise_cons.1 later).1 other member)

theorem ascending_distinct (kinds : List Kind) :
    (distinct kinds).Pairwise fun first second => first.rank < second.rank := by
  have ordered : (sorted kinds).Pairwise
      fun first second => decide (first.rank ≤ second.rank) = true :=
    List.pairwise_mergeSort (fun first second third => by simpa using Nat.le_trans)
      (fun first second => by simpa using Nat.le_total first.rank second.rank) kinds
  exact ascending_unrepeated (ordered.imp of_decide_eq_true)

theorem nodup_of_ascending {kinds : List Kind}
    (ascending : kinds.Pairwise fun first second => first.rank < second.rank) : kinds.Nodup :=
  ascending.imp fun less => by
    rintro rfl
    exact Nat.lt_irrefl _ less

/-- Sorting and dropping repetitions picks the kinds that occur out of all kinds. -/
theorem distinct_eq_filter (kinds : List Kind) :
    distinct kinds = all.filter (kinds.contains ·) := by
  have ascending : (all.filter (kinds.contains ·)).Pairwise
      fun first second => first.rank < second.rank := .filter _ (by decide)
  have perm : (distinct kinds).Perm (all.filter (kinds.contains ·)) := by
    apply (List.perm_ext_iff_of_nodup (nodup_of_ascending (ascending_distinct kinds))
      (nodup_of_ascending ascending)).2
    intro kind
    simp [mem_all]
  exact perm.eq_of_pairwise (fun _ _ _ _ less more => absurd more (Nat.lt_asymm less))
    (ascending_distinct kinds) ascending

def least? (kinds : List Kind) : Option Kind :=
  (sorted kinds).head?

def greatest? (kinds : List Kind) : Option Kind :=
  (sorted kinds).getLast?

def alternatives (kinds : List Kind) : String :=
  " or ".intercalate (kinds.map name)

end Kind

end DocQuery
