import DocQuery.Json.Number

/-! JSON values, in which an object keeps the order of its members and repeats no name.

They are trees that satisfy a predicate; the accessors and constructors below hide the trees.
-/

set_option autoImplicit false

namespace DocQuery

/-- JSON as a tree, in which an object might repeat a name. -/
inductive Json.Raw where
  | null
  | boolean (value : Bool)
  | number (value : Json.Number)
  | string (text : String)
  | array (elements : List Json.Raw)
  | object (members : List (String × Json.Raw))

namespace Json.Raw

mutual

def Distinct : Raw → Prop
  | .null | .boolean _ | .number _ | .string _ => True
  | .array elements => DistinctElements elements
  | .object members => (members.map Prod.fst).Nodup ∧ DistinctMembers members
termination_by structural value => value

def DistinctElements : List Raw → Prop
  | [] => True
  | element :: rest => element.Distinct ∧ DistinctElements rest
termination_by structural elements => elements

def DistinctMembers : List (String × Raw) → Prop
  | [] => True
  | (_, value) :: rest => value.Distinct ∧ DistinctMembers rest
termination_by structural members => members

end

theorem distinctElements_iff (elements : List Raw) :
    DistinctElements elements ↔ ∀ element ∈ elements, element.Distinct := by
  induction elements with
  | nil => simp [DistinctElements]
  | cons element rest ih => simp [DistinctElements, ih]

theorem distinctMembers_iff (members : List (String × Raw)) :
    DistinctMembers members ↔ ∀ member ∈ members, member.2.Distinct := by
  induction members with
  | nil => simp [DistinctMembers]
  | cons member rest ih => simp [DistinctMembers, ih]

theorem distinct_array {elements : List Raw} :
    (array elements).Distinct ↔ ∀ element ∈ elements, element.Distinct :=
  distinctElements_iff elements

theorem distinct_object {members : List (String × Raw)} :
    (object members).Distinct ↔
      (members.map Prod.fst).Nodup ∧ ∀ member ∈ members, member.2.Distinct := by
  simp only [Distinct, distinctMembers_iff]

end Json.Raw

@[ext] structure Json where
  raw : Json.Raw
  distinct : raw.Distinct

namespace Json

def null : Json := ⟨.null, trivial⟩

def boolean (value : Bool) : Json := ⟨.boolean value, trivial⟩

def number (value : Number) : Json := ⟨.number value, trivial⟩

def string (text : String) : Json := ⟨.string text, trivial⟩

def array (elements : List Json) : Json where
  raw := .array (elements.map raw)
  distinct := Raw.distinct_array.2 fun element member => by
    obtain ⟨value, -, rfl⟩ := List.mem_map.1 member
    exact value.distinct

def object (members : List (String × Json)) (distinct : (members.map Prod.fst).Nodup) : Json where
  raw := .object (members.map fun member => (member.1, member.2.raw))
  distinct := Raw.distinct_object.2 ⟨by simpa [Function.comp_def] using distinct, fun member => by
    simp only [List.mem_map]
    rintro ⟨value, -, rfl⟩
    exact value.2.distinct⟩

instance : Inhabited Json := ⟨null⟩

/-- Set a member: a new name goes to the end, a known one keeps its place. -/
def insertMember (members : List (String × Json)) (name : String) (value : Json) :
    List (String × Json) :=
  match members with
  | [] => [(name, value)]
  | (first, old) :: rest =>
    if first = name then (first, value) :: rest else (first, old) :: insertMember rest name value

theorem map_fst_insertMember (members : List (String × Json)) (name : String) (value : Json) :
    (insertMember members name value).map Prod.fst =
      if name ∈ members.map Prod.fst then members.map Prod.fst
      else members.map Prod.fst ++ [name] := by
  induction members with
  | nil => simp [insertMember]
  | cons member rest ih =>
    obtain ⟨first, old⟩ := member
    by_cases same : first = name
    · simp [insertMember, same]
    · have other : ¬ name = first := fun h => same h.symm
      by_cases known : name ∈ rest.map Prod.fst
      · simp only [insertMember, same, if_false, List.map_cons, ih, known, if_true,
          List.mem_cons, or_true]
      · simp only [insertMember, same, if_false, List.map_cons, ih, known, List.mem_cons, other,
          or_self, List.cons_append]

theorem nodup_insertMember {members : List (String × Json)} (name : String) (value : Json)
    (distinct : (members.map Prod.fst).Nodup) :
    ((insertMember members name value).map Prod.fst).Nodup := by
  rw [map_fst_insertMember]
  split
  · exact distinct
  · next unknown =>
    rw [List.nodup_append]
    refine ⟨distinct, by simp, ?_⟩
    intro a ha b hb same
    rw [List.mem_singleton] at hb
    exact unknown (hb ▸ same ▸ ha)

theorem lookup_insertMember (members : List (String × Json)) (name other : String)
    (value : Json) :
    (insertMember members name value).lookup other =
      if other = name then some value else members.lookup other := by
  induction members with
  | nil =>
    by_cases h : other = name
    · simp [insertMember, h]
    · simp [insertMember, List.lookup_cons, h, beq_eq_false_iff_ne.2 h]
  | cons member rest ih =>
    obtain ⟨first, old⟩ := member
    by_cases same : first = name
    · subst same
      by_cases h : other = first
      · simp [insertMember, h]
      · simp [insertMember, List.lookup_cons, h, beq_eq_false_iff_ne.2 h]
    · by_cases h : other = first
      · subst h
        simp [insertMember, same]
      · simp [insertMember, same, List.lookup_cons, ih, beq_eq_false_iff_ne.2 h]

def collectMembers (members : List (String × Json)) : List (String × Json) :=
  members.foldl (fun known member => insertMember known member.1 member.2) []

theorem nodup_collectMembers (members : List (String × Json)) :
    ((collectMembers members).map Prod.fst).Nodup := by
  have step : ∀ known : List (String × Json), (known.map Prod.fst).Nodup →
      ((members.foldl (fun known member => insertMember known member.1 member.2) known).map
        Prod.fst).Nodup := by
    induction members with
    | nil => exact fun _ distinct => distinct
    | cons member rest ih =>
      exact fun known distinct => ih _ (nodup_insertMember member.1 member.2 distinct)
  exact step [] (by simp)

-- A later member replaces an earlier one of its name.
def ofMembers (members : List (String × Json)) : Json :=
  object (collectMembers members) (nodup_collectMembers members)

def ofNat (value : Nat) : Json :=
  ((Number.ofInt? value).map number).getD null

def elements : Json → List Json
  | ⟨.array elements, distinct⟩ => elements.pmap Json.mk (Raw.distinct_array.1 distinct)
  | _ => []

def members : Json → List (String × Json)
  | ⟨.object members, distinct⟩ =>
    members.pmap (fun member distinct => (member.1, ⟨member.2, distinct⟩))
      (Raw.distinct_object.1 distinct).2
  | _ => []

@[simp] theorem elements_array (values : List Json) : (array values).elements = values := by
  simp only [elements, array, List.pmap_map]
  induction values with
  | nil => rfl
  | cons value rest ih => exact congrArg (value :: ·) ih

theorem pmap_raw (values : List (String × Json))
    (distinct : ∀ member ∈ values, member.2.raw.Distinct) :
    values.pmap (fun member distinct => (member.1, Json.mk member.2.raw distinct)) distinct =
      values := by
  induction values with
  | nil => rfl
  | cons value rest ih => exact congrArg (value :: ·) (ih _)

@[simp] theorem members_object (values : List (String × Json))
    (distinct : (values.map Prod.fst).Nodup) : (object values distinct).members = values := by
  simp only [members, object, List.pmap_map]
  exact pmap_raw values _

theorem nodup_members (value : Json) : (value.members.map Prod.fst).Nodup := by
  obtain ⟨raw, distinct⟩ := value
  cases raw with
  | object members =>
    have names := (Raw.distinct_object.1 distinct).1
    simpa [Json.members, List.map_pmap] using names
  | _ => simp [Json.members]

inductive View where
  | null
  | boolean (value : Bool)
  | number (value : Number)
  | string (text : String)
  | array (elements : List Json)
  | object (members : List (String × Json))

def view (value : Json) : View :=
  match value.raw with
  | .null => .null
  | .boolean flag => .boolean flag
  | .number number => .number number
  | .string text => .string text
  | .array _ => .array value.elements
  | .object _ => .object value.members

end Json

end DocQuery
