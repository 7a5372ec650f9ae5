import Mathlib.Data.List.Forall2
import DocQuery.Binding.Equality

/-! Deep equality, one step at a time.

Values of one kind are equal if their contents are: arrays element by element, and objects name by
name, which asks for one size and one direction.
-/

set_option autoImplicit false

namespace DocQuery.Accessors

variable {V : Type} {accessors : Accessors V} {grounded : accessors.Grounded}
  {order : V → V → Option Ordering} {first second : V}

theorem deepEquals_of_kind_ne (different : accessors.kindOf first ≠ accessors.kindOf second) :
    accessors.deepEquals grounded order first second = false := by
  rw [deepEquals, if_neg different]

theorem kindOf_of_deepEquals (same : accessors.deepEquals grounded order first second = true) :
    accessors.kindOf first = accessors.kindOf second := by
  by_contra different
  rw [deepEquals_of_kind_ne different] at same
  exact Bool.false_ne_true same

theorem deepEquals_null (left : accessors.kindOf first = .null)
    (right : accessors.kindOf second = .null) :
    accessors.deepEquals grounded order first second = true := by
  rw [deepEquals, if_pos (left.trans right.symm), left]

theorem deepEquals_boolean (left : accessors.kindOf first = .boolean)
    (right : accessors.kindOf second = .boolean) :
    accessors.deepEquals grounded order first second =
      (accessors.boolean? first == accessors.boolean? second) := by
  rw [deepEquals, if_pos (left.trans right.symm), left]

theorem deepEquals_string (left : accessors.kindOf first = .string)
    (right : accessors.kindOf second = .string) :
    accessors.deepEquals grounded order first second =
      (accessors.string? first == accessors.string? second) := by
  rw [deepEquals, if_pos (left.trans right.symm), left]

theorem deepEquals_number (left : accessors.kindOf first = .number)
    (right : accessors.kindOf second = .number) :
    accessors.deepEquals grounded order first second = (order first second == some .eq) := by
  rw [deepEquals, if_pos (left.trans right.symm), left]

theorem deepEquals_date (left : accessors.kindOf first = .date)
    (right : accessors.kindOf second = .date) :
    accessors.deepEquals grounded order first second =
      (order first second).elim (accessors.string? first == accessors.string? second)
        (· == .eq) := by
  rw [deepEquals, if_pos (left.trans right.symm), left]
  cases order first second <;> rfl

theorem all_attach_zip {α β : Type} (items : List α) (others : List β) (test : α → β → Bool) :
    ((items.attach.zip others).all fun pair => test pair.1.val pair.2) =
      (items.zip others).all fun pair => test pair.1 pair.2 := by
  conv_rhs => rw [← items.attach_map_subtype_val, List.zip_map_left, List.all_map]
  rfl

theorem deepEquals_array (left : accessors.kindOf first = .array)
    (right : accessors.kindOf second = .array) :
    accessors.deepEquals grounded order first second = true ↔
      List.Forall₂ (fun x y => accessors.deepEquals grounded order x y = true)
        (accessors.elements first) (accessors.elements second) := by
  rw [deepEquals, if_pos (left.trans right.symm), left, List.forall₂_iff_zip]
  simp only [all_attach_zip, Bool.and_eq_true, beq_iff_eq, List.all_eq_true, Prod.forall]

theorem deepEquals_object (left : accessors.kindOf first = .object)
    (right : accessors.kindOf second = .object) :
    accessors.deepEquals grounded order first second = true ↔
      (accessors.propertyNames first).length =
          (accessors.propertyNames second).eraseDups.length ∧
        ∀ name ∈ accessors.propertyNames first, name ∈ accessors.propertyNames second ∧
          accessors.deepEquals grounded order (accessors.property first name)
            (accessors.property second name) = true := by
  rw [deepEquals, if_pos (left.trans right.symm), left]
  simp only [Bool.and_eq_true, beq_iff_eq, List.all_eq_true, List.mem_attach, true_implies,
    Subtype.forall, List.contains_iff_mem]

theorem eraseDups_of_nodup {names : List String} (distinct : names.Nodup) :
    names.eraseDups = names := by
  induction names with
  | nil => rfl
  | cons name rest ih =>
    obtain ⟨unused, others⟩ := List.nodup_cons.1 distinct
    have kept : rest.filter (fun other => !other == name) = rest := by
      apply List.filter_eq_self.2
      intro other member
      have different : other ≠ name := fun same => unused (same ▸ member)
      simpa using different
    rw [List.eraseDups_cons, kept, ih others]

/-- The rest of a list without an item is no longer than the list, so that induction on the length
follows the recursion. -/
theorem eraseDups_sublist (names : List String) : names.eraseDups.Sublist names := by
  induction length : names.length using Nat.strongRecOn generalizing names with
  | ind length ih =>
    subst length
    cases names with
    | nil => exact .slnil
    | cons name rest =>
      have shorter := Nat.lt_succ_of_le (List.length_filter_le (fun other => !other == name) rest)
      rw [List.eraseDups_cons]
      exact ((ih _ shorter _ rfl).trans List.filter_sublist).cons_cons name

theorem nodup_eraseDups (names : List String) : names.eraseDups.Nodup := by
  induction length : names.length using Nat.strongRecOn generalizing names with
  | ind length ih =>
    subst length
    cases names with
    | nil => exact List.nodup_nil
    | cons name rest =>
      have shorter := Nat.lt_succ_of_le (List.length_filter_le (fun other => !other == name) rest)
      rw [List.eraseDups_cons, List.nodup_cons, List.mem_eraseDups]
      exact ⟨by simp, ih _ shorter _ rfl⟩

theorem length_eq_length_eraseDups_iff {names : List String} :
    names.length = names.eraseDups.length ↔ names.Nodup := by
  constructor
  · intro length
    rw [← (eraseDups_sublist names).eq_of_length length.symm]
    exact nodup_eraseDups names
  · intro distinct
    rw [eraseDups_of_nodup distinct]

end DocQuery.Accessors
