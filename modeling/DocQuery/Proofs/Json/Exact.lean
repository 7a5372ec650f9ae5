import DocQuery.Proofs.Binary64.Exact
import DocQuery.Proofs.Json.Parts

/-! JSON whose integers are binary numbers.

Equality compares integers exactly and any other numbers as binary numbers. The difference shows on
large integers alone, of which many are rounded to one binary number.
-/

set_option autoImplicit false

namespace DocQuery.Json

namespace Number

/-- Not an integer beyond the size up to which all integers are binary numbers. -/
def IsExact : Number → Prop
  | .integer value _ _ => -greatestExact ≤ value ∧ value ≤ greatestExact
  | .double _ _ => True

-- The greatest of the integers up to which all are binary numbers.
def lastExact : Number := .integer 0x20000000000000 (by decide) (by decide)

/-- Different integers that are equal as binary numbers. -/
inductive Conflated : Number → Number → Prop where
  | integers {x y : Int} {lower upper lower' upper'} : x ≠ y →
      (Binary64.ofInt x).equal (Binary64.ofInt y) = true →
      Conflated (.integer x lower upper) (.integer y lower' upper')

theorem isNaN_toBinary64 (number : Number) : number.toBinary64.isNaN = false := by
  cases number with
  | integer value lower upper => exact Binary64.isNaN_ofInt value
  | double value finite => exact ((Binary64.isFinite_iff value).1 finite).1

theorem compare?_toBinary64 (first second : Number) :
    first.toBinary64.compare? second.toBinary64 =
      some (compare first.toBinary64.key second.toBinary64.key) := by
  rw [Binary64.compare?, first.isNaN_toBinary64, second.isNaN_toBinary64]
  rfl

/-- Equality of numbers is equality of binary numbers but for conflated integers. -/
theorem sameValue_eq_equal_iff (first second : Number) :
    first.sameValue second = first.toBinary64.equal second.toBinary64 ↔
      ¬ first.Conflated second := by
  cases first with
  | double value finite => exact iff_of_true rfl nofun
  | integer x lower upper =>
    cases second with
    | double value finite => exact iff_of_true rfl nofun
    | integer y lower' upper' =>
      constructor
      · rintro same ⟨different, equal⟩
        exact different (eq_of_beq (same.trans equal))
      · intro distinguished
        by_cases same : x = y
        · subst same
          exact (beq_self_eq_true x).trans
            (Binary64.equal_self (Binary64.isNaN_ofInt x)).symm
        · have unequal : (Binary64.ofInt x).equal (Binary64.ofInt y) = false :=
            Bool.eq_false_iff.2 fun equal => distinguished (.integers same equal)
          exact (beq_eq_false_iff_ne.2 same).trans unequal.symm

theorem equal_of_sameValue {first second : Number} (same : first.sameValue second = true) :
    first.toBinary64.equal second.toBinary64 = true := by
  cases first with
  | double value finite => exact same
  | integer x lower upper =>
    cases second with
    | double value finite => exact same
    | integer y lower' upper' =>
      cases eq_of_beq same
      exact Binary64.equal_self (Binary64.isNaN_ofInt x)

theorem sameValue_comm (first second : Number) :
    first.sameValue second = second.sameValue first := by
  cases first with
  | double value finite => cases second <;> exact Binary64.equal_comm _ _
  | integer x lower upper =>
    cases second with
    | double value finite => exact Binary64.equal_comm _ _
    | integer y lower' upper' => exact BEq.comm

/-- Two numbers that equal a third are equal unless they are conflated, and then the third is no
integer. -/
theorem sameValue_trans_iff {first middle last : Number} (same : first.sameValue middle = true)
    (same' : middle.sameValue last = true) :
    (first.sameValue last = true ↔ ¬ first.Conflated last) ∧
      (first.Conflated last → ∃ value finite, middle = .double value finite) := by
  constructor
  · have equal := Binary64.equal_trans (equal_of_sameValue same) (equal_of_sameValue same')
    rw [← sameValue_eq_equal_iff, equal]
  · rintro ⟨different, -⟩
    cases middle with
    | double value finite => exact ⟨value, finite, rfl⟩
    | integer value lower upper =>
      exact absurd ((eq_of_beq same).trans (eq_of_beq same')) different

theorem IsExact.not_conflated {first second : Number} (unrounded : first.IsExact)
    (unrounded' : second.IsExact) : ¬ first.Conflated second := by
  rintro ⟨different, equal⟩
  have bound {value : Int} (small : -greatestExact ≤ value ∧ value ≤ greatestExact) :
      value.natAbs ≤ 2 * Binary64.fractionCount := by
    unfold greatestExact at small
    unfold Binary64.fractionCount
    omega
  exact different ((Binary64.ofInt_equal_iff (bound unrounded) (bound unrounded')).1 equal)

-- The first integer after those that are all binary numbers.
def firstInexact : Number := .integer 0x20000000000001 (by decide) (by decide)

theorem conflated_firstInexact : firstInexact.Conflated lastExact :=
  .integers (by decide) (by decide +kernel)

end Number

/-- Every integer inside, at whatever depth, is of a size up to which all integers are binary
numbers. -/
def IsExact (value : Json) : Prop := value.HasNumbers Number.IsExact

end DocQuery.Json
