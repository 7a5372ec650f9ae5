import DocQuery.Action
import DocQuery.Text.Quoted

/-! Functions that queries may call, and the registries that hold them by name. -/

set_option autoImplicit false

namespace DocQuery

variable {V : Type}

/-- The body may rely on its arguments' being as the signature says. It evaluates nothing but these,
and does not see the registry that holds it. -/
structure Function (V : Type) where
  name : String
  signature : Signature
  body : Binding V → List (Argument V) → Action V V

/-- At most one function of each name, in the order of their names. -/
structure Registry (V : Type) where
  functions : List (Function V)
  ascending : functions.Pairwise fun first second => first.name < second.name

namespace Registry

def empty : Registry V := ⟨[], .nil⟩

def place (function : Function V) : List (Function V) → List (Function V)
  | [] => [function]
  | first :: rest =>
    if function.name < first.name then function :: first :: rest
    else if function.name = first.name then function :: rest
    else first :: place function rest

theorem mem_place {function other : Function V} {functions : List (Function V)}
    (member : other ∈ place function functions) : other = function ∨ other ∈ functions := by
  induction functions with
  | nil => simpa [place] using member
  | cons first rest ih =>
    simp only [place] at member
    split at member
    · simpa using member
    split at member
    · rcases List.mem_cons.1 member with same | later
      · exact .inl same
      · exact .inr (List.mem_cons_of_mem _ later)
    · rcases List.mem_cons.1 member with same | later
      · exact .inr (same ▸ List.mem_cons_self)
      · exact (ih later).imp_right (List.mem_cons_of_mem _)

theorem ascending_place (function : Function V) {functions : List (Function V)}
    (ascending : functions.Pairwise fun first second => first.name < second.name) :
    (place function functions).Pairwise fun first second => first.name < second.name := by
  induction functions with
  | nil => simp [place]
  | cons first rest ih =>
    obtain ⟨least, others⟩ := List.pairwise_cons.1 ascending
    simp only [place]
    split
    · next before =>
      refine List.pairwise_cons.2 ⟨?_, ascending⟩
      intro other member
      rcases List.mem_cons.1 member with rfl | later
      · exact before
      · exact String.lt_trans before (least other later)
    split
    · next same => exact List.pairwise_cons.2 ⟨fun other later => same ▸ least other later, others⟩
    · next notBefore different =>
      refine List.pairwise_cons.2 ⟨?_, ih others⟩
      intro other member
      rcases mem_place member with rfl | later
      · by_cases after : first.name < other.name
        · exact after
        · exact absurd (String.le_antisymm (String.not_lt.1 after) (String.not_lt.1 notBefore))
            different
      · exact least other later

/-- Add a function that others may hold as well; it replaces one of its name. -/
def registerShared (registry : Registry V) (function : Function V) : Registry V :=
  ⟨place function registry.functions, ascending_place function registry.ascending⟩

def register (registry : Registry V) (function : Function V) : Registry V :=
  registry.registerShared function

def extend (registry : Registry V) (functions : List (Function V)) : Registry V :=
  functions.foldl registerShared registry

def ofList (functions : List (Function V)) : Registry V :=
  empty.extend functions

def lookup (registry : Registry V) (name : String) : Option (Function V) :=
  registry.functions.find? (·.name == name)

def names (registry : Registry V) : List String :=
  registry.functions.map (·.name)

def size (registry : Registry V) : Nat :=
  registry.functions.length

def isEmpty (registry : Registry V) : Bool :=
  registry.functions.isEmpty

def text (registry : Registry V) : String :=
  "FunctionRegistry \x7b functions: [" ++
    String.ofList (Text.commaSeparated (registry.names.map Text.quoted)) ++ "] \x7d"

end Registry

structure Environment (V : Type) extends Binding V where
  functions : Option (Registry V) := none

namespace Environment

def function? (environment : Environment V) (name : String) : Option (Function V) :=
  environment.functions.bind (·.lookup name)

end Environment

end DocQuery
