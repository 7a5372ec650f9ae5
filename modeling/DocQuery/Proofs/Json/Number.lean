import DocQuery.Json.Number

/-! Numbers that are equal as written may stand for one another.

Only two zeros of different sign are equal as written and yet different, and nothing that compares
numbers tells these apart.
-/

set_option autoImplicit false

namespace DocQuery

namespace Binary64

theorem equal_iff {x y : Binary64} :
    x.equal y = true ↔ x.isNaN = false ∧ y.isNaN = false ∧ x.key = y.key := by
  unfold equal compare?
  cases x.isNaN <;> cases y.isNaN <;> simp

theorem compare?_congr {x x' y y' : Binary64} (first : x.equal x' = true)
    (second : y.equal y' = true) : x.compare? y = x'.compare? y' := by
  obtain ⟨number, number', key⟩ := equal_iff.1 first
  obtain ⟨other, other', otherKey⟩ := equal_iff.1 second
  unfold compare?
  rw [number, number', other, other', key, otherKey]

theorem equal_congr {x x' y y' : Binary64} (first : x.equal x' = true)
    (second : y.equal y' = true) : x.equal y = x'.equal y' := by
  rw [equal, equal, compare?_congr first second]

theorem equal_self {x : Binary64} (number : x.isNaN = false) : x.equal x = true :=
  equal_iff.2 ⟨number, number, rfl⟩

theorem compare?_swap (x y : Binary64) : y.compare? x = (x.compare? y).map Ordering.swap := by
  rw [compare?, compare?, Bool.or_comm]
  split
  · rfl
  · exact congrArg some Std.OrientedCmp.eq_swap

theorem equal_comm (x y : Binary64) : x.equal y = y.equal x := by
  rw [Bool.eq_iff_iff, equal_iff, equal_iff, and_left_comm]
  exact and_congr_right fun _ => and_congr_right fun _ => eq_comm

theorem equal_trans {x y z : Binary64} (first : x.equal y = true) (second : y.equal z = true) :
    x.equal z = true := by
  obtain ⟨number, -, key⟩ := equal_iff.1 first
  obtain ⟨-, number', key'⟩ := equal_iff.1 second
  exact equal_iff.2 ⟨number, number', key.trans key'⟩

theorem eq_or_zero_of_key {x y : Binary64} (same : x.key = y.key) :
    x = y ∨ x.magnitude = 0 ∧ y.magnitude = 0 := by
  obtain ⟨negative, magnitude, bound⟩ := x
  obtain ⟨negative', magnitude', bound'⟩ := y
  cases negative <;> cases negative' <;> simp [key] at same ⊢ <;> omega

/-- Rounding overflows to infinity at most. -/
theorem isNaN_ofInt (value : Int) : (ofInt value).isNaN = false := by
  unfold isNaN
  rw [decide_eq_false_iff_not, Nat.not_lt]
  exact Nat.min_le_right _ _

end Binary64

namespace Json.Number

theorem sameForm_self (number : Number) : number.sameForm number = true := by
  cases number with
  | integer value lower upper => exact beq_self_eq_true value
  | double value finite => exact Binary64.equal_self ((Binary64.isFinite_iff value).1 finite).1

theorem eq_of_sameForm_integer {value value' : Int} {lower lower' upper upper'}
    (same : (integer value lower upper).sameForm (integer value' lower' upper') = true) :
    integer value lower upper = integer value' lower' upper' := by
  cases eq_of_beq same
  rfl

theorem equal_toBinary64 {first second : Number} (same : first.sameForm second = true) :
    first.toBinary64.equal second.toBinary64 = true := by
  cases first with
  | integer value lower upper =>
    cases second with
    | integer value' lower' upper' =>
      rw [eq_of_sameForm_integer same]
      exact Binary64.equal_self (Binary64.isNaN_ofInt value')
    | double value' finite' => cases same
  | double value finite =>
    cases second with
    | integer value' lower' upper' => cases same
    | double value' finite' => exact same

theorem sameValue_congr {first first' second second' : Number}
    (same : first.sameForm first' = true) (same' : second.sameForm second' = true) :
    first.sameValue second = first'.sameValue second' := by
  have rounded := Binary64.equal_congr (equal_toBinary64 same) (equal_toBinary64 same')
  cases first with
  | integer value lower upper =>
    cases first' with
    | integer value' lower' upper' =>
      cases eq_of_sameForm_integer same
      cases second with
      | integer other lower upper =>
        cases second' with
        | integer other' lower' upper' => rw [eq_of_sameForm_integer same']
        | double other' finite' => cases same'
      | double other finite =>
        cases second' with
        | integer other' lower' upper' => cases same'
        | double other' finite' => exact rounded
    | double value' finite' => cases same
  | double value finite =>
    cases first' with
    | integer value' lower' upper' => cases same
    | double value' finite' => exact rounded

theorem sameValue_of_sameForm {first second : Number} (same : first.sameForm second = true) :
    first.sameValue second = true := by
  cases first with
  | integer value lower upper =>
    cases second with
    | integer value' lower' upper' => exact same
    | double value' finite' => cases same
  | double value finite => exact equal_toBinary64 same

end Json.Number

end DocQuery
