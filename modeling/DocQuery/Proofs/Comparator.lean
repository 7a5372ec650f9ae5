import Mathlib.Logic.ExistsUnique
import DocQuery.Comparator

/-! When the verdicts of the comparison operators fit together.

They do so if equality and order agree about when two values are equal.
-/

set_option autoImplicit false

namespace DocQuery.Comparator

/-- Exactly one of `==`, `<` and `>` holds, and `<=` and `>=` hold where `==` or the strict operator
does. -/
structure Coherent (holds : Comparator → Prop) : Prop where
  exactlyOne : ∃! operator, operator ∈ [equal, less, greater] ∧ holds operator
  lessEqual : holds lessEqual ↔ holds less ∨ holds equal
  greaterEqual : holds greaterEqual ↔ holds greater ∨ holds equal

def Holds (same : Bool) (order : Option Ordering) (operator : Comparator) : Prop :=
  operator.verdict? same order = some true

instance (same : Bool) (order : Option Ordering) (operator : Comparator) :
    Decidable (Holds same order operator) :=
  inferInstanceAs (Decidable (_ = _))

def ofOrdering : Ordering → Comparator
  | .lt => less
  | .eq => equal
  | .gt => greater

theorem holds_iff_eq_ofOrdering {order : Ordering} {operator : Comparator}
    (member : operator ∈ [equal, less, greater]) :
    Holds (order == .eq) (some order) operator ↔ operator = ofOrdering order := by
  revert member
  cases order <;> cases operator <;> decide

theorem coherent_of_agreement (order : Ordering) :
    Coherent (Holds (order == .eq) (some order)) where
  exactlyOne := by
    refine ⟨ofOrdering order, ⟨?_, ?_⟩, ?_⟩
    · cases order <;> decide
    · cases order <;> decide
    · rintro operator ⟨member, holds⟩
      exact (holds_iff_eq_ofOrdering member).1 holds
  lessEqual := by cases order <;> decide
  greaterEqual := by cases order <;> decide

theorem coherent_iff (same : Bool) (order : Ordering) :
    Coherent (Holds same (some order)) ↔ same = (order == .eq) := by
  constructor
  · rintro ⟨⟨operator, ⟨member, holds⟩, unique⟩, -, -⟩
    have sole {first second : Comparator} (holdsFirst : first ∈ [equal, less, greater] ∧
        Holds same (some order) first) (holdsSecond : second ∈ [equal, less, greater] ∧
        Holds same (some order) second) : first = second :=
      (unique first holdsFirst).trans (unique second holdsSecond).symm
    cases same with
    | true =>
      cases order with
      | eq => rfl
      | lt => cases (sole (by decide) (by decide) : equal = less)
      | gt => cases (sole (by decide) (by decide) : equal = greater)
    | false =>
      cases order with
      | eq =>
        revert member holds
        cases operator <;> decide
      | lt | gt => rfl
  · rintro rfl
    exact coherent_of_agreement order

/-- Where the order says that values are equal and equality does not, only the operators hold that
leave this open. -/
theorem holds_iff_of_eq (operator : Comparator) :
    Holds false (some .eq) operator ↔ operator ∈ [notEqual, lessEqual, greaterEqual] := by
  cases operator <;> decide

def orderings : List Comparator := [less, lessEqual, greater, greaterEqual]

theorem verdict?_eq_none_iff (operator : Comparator) (same : Bool) (order : Option Ordering) :
    operator.verdict? same order = none ↔ operator ∈ orderings ∧ order = none := by
  cases operator <;> simp [verdict?, orderings]

/-- The operator that says of two values what another says of them in the other order. -/
def mirror : Comparator → Comparator
  | equal => equal
  | notEqual => notEqual
  | less => greater
  | lessEqual => greaterEqual
  | greater => less
  | greaterEqual => lessEqual

theorem verdict?_mirror (operator : Comparator) (same : Bool) (order : Option Ordering) :
    operator.mirror.verdict? same (order.map Ordering.swap) = operator.verdict? same order := by
  cases order with
  | none => cases operator <;> rfl
  | some found => cases operator <;> cases found <;> rfl

end DocQuery.Comparator
