import Mathlib.Data.List.Nodup
import Mathlib.Data.List.Perm.Subperm
import DocQuery.Slice

/-! The positions of a slice, computed in unbounded integers.

The words in which a walk computes have limits of their own. Neither the bounds of a slice nor the
positions of its walk come to meet them: the walk is an arithmetic progression, all of it.
-/

set_option autoImplicit false

namespace DocQuery.Slice

/-- A given bound, counted from the end if it is negative, and then moved to where a walk can begin
or end. -/
def exactBound (length step bound : Int) : Int :=
  let position := if bound < 0 then bound + length else bound
  if 0 < step then max 0 (min position length) else max (-1) (min position (length - 1))

def exactFirst (length : Int) (start : Option Int64) (step : Int) : Int :=
  match start with
  | some bound => exactBound length step bound.toInt
  | none => if 0 < step then 0 else length - 1

def exactLimit (length : Int) (stop : Option Int64) (step : Int) : Int :=
  match stop with
  | some bound => exactBound length step bound.toInt
  | none => if 0 < step then length else -1

theorem word?_of_lt {length : Nat} (fits : length < 0x8000000000000000) :
    word? length = some (lengthWord length) := by
  rw [lengthWord, word?, if_pos fits, Option.getD_some]

theorem toInt_lengthWord {length : Nat} (fits : length < 0x8000000000000000) :
    (lengthWord length).toInt = length := by
  rw [lengthWord, word?, if_pos fits]
  exact Int64.toInt_ofNat_of_lt fits

theorem checkedAdd?_of_le {x y : Int64} (lower : Int64.minValue.toInt ≤ x.toInt + y.toInt)
    (upper : x.toInt + y.toInt ≤ Int64.maxValue.toInt) :
    checkedAdd? x y = some (Int64.ofInt (x.toInt + y.toInt)) :=
  if_pos ⟨lower, upper⟩

theorem exceeds_of_checkedAdd? {x y : Int64} (overflow : checkedAdd? x y = none) :
    x.toInt + y.toInt < Int64.minValue.toInt ∨ Int64.maxValue.toInt < x.toInt + y.toInt := by
  by_contra within
  simp only [not_or, Int.not_lt] at within
  rw [checkedAdd?_of_le within.1 within.2] at overflow
  cases overflow

/-- A negative bound and a length never exceed a word together. -/
theorem toInt_saturatingAdd {bound length : Int64} (negative : bound.toInt < 0)
    (natural : 0 ≤ length.toInt) :
    (saturatingAdd bound length).toInt = bound.toInt + length.toInt := by
  have lower := bound.minValue_le_toInt
  have upper := length.toInt_le
  have sum : checkedAdd? bound length = some (Int64.ofInt (bound.toInt + length.toInt)) :=
    checkedAdd?_of_le (by omega) (by omega)
  rw [saturatingAdd, sum]
  exact toInt_of_checkedAdd? sum

theorem toInt_pred {length : Int64} (natural : 0 ≤ length.toInt) :
    (length - 1).toInt = length.toInt - 1 := by
  have upper := length.toInt_lt
  rw [Int64.toInt_sub, Int64.toInt_one]
  apply Int.bmod_eq_of_le <;> omega

theorem pos_iff_not_neg {step : Int64} (nonzero : step ≠ 0) : 0 < step.toInt ↔ ¬ step < 0 := by
  have other : step.toInt ≠ 0 := fun zero => nonzero (Int64.toInt_inj.1 zero)
  rw [Int64.lt_iff_toInt_lt, Int64.toInt_zero]
  omega

variable {length step : Int64}

theorem toInt_clamp (natural : 0 ≤ length.toInt) (nonzero : step ≠ 0) (bound : Int64) :
    (clamp length bound step).toInt = exactBound length.toInt step.toInt bound.toInt := by
  have forward := pos_iff_not_neg nonzero
  have last := toInt_pred natural
  have beforeFirst : (-1 : Int64).toInt = -1 := rfl
  rw [clamp, exactBound]
  simp only [forward, Int64.lt_iff_toInt_lt (x := bound), Int64.le_iff_toInt_le, Int64.toInt_zero]
  by_cases negative : bound.toInt < 0
  · have sum := toInt_saturatingAdd negative natural
    simp only [negative, if_true, sum, apply_ite Int64.toInt, Int64.toInt_zero, beforeFirst]
    split <;> split <;> omega
  · simp only [negative, if_false, apply_ite Int64.toInt, last]
    split <;> split <;> omega

theorem toInt_firstPosition (natural : 0 ≤ length.toInt) (nonzero : step ≠ 0)
    (start : Option Int64) :
    (firstPosition length start step).toInt = exactFirst length.toInt start step.toInt := by
  cases start with
  | some bound => exact toInt_clamp natural nonzero bound
  | none =>
    simp only [firstPosition, exactFirst, pos_iff_not_neg nonzero, apply_ite Int64.toInt,
      toInt_pred natural, Int64.toInt_zero, ite_not]

theorem toInt_limit (natural : 0 ≤ length.toInt) (nonzero : step ≠ 0) (stop : Option Int64) :
    (limit length stop step).toInt = exactLimit length.toInt stop step.toInt := by
  cases stop with
  | some bound => exact toInt_clamp natural nonzero bound
  | none =>
    have beforeFirst : (-1 : Int64).toInt = -1 := rfl
    simp only [limit, exactLimit, pos_iff_not_neg nonzero, apply_ite Int64.toInt, beforeFirst,
      ite_not]

def Precedes (position limit step : Int) : Prop :=
  (0 < step ∧ position < limit) ∨ (step < 0 ∧ limit < position)

/-- The terms of an arithmetic progression that precede a limit, all of them and in order. -/
def IsProgression (first limit step : Int) (terms : List Int) : Prop :=
  ∃ count : Nat, (∀ index : Nat, index < count ↔ Precedes (first + index * step) limit step) ∧
    terms = (List.range count).map fun index : Nat => first + index * step

theorem before_iff {position limit step : Int64} :
    Before position limit step ↔ Precedes position.toInt limit.toInt step.toInt := by
  simp only [Before, Precedes, Int64.lt_iff_toInt_lt, Int64.toInt_zero]

/-- A walk that has come to its limit stays beyond it. -/
theorem Precedes.earlier {position limit step : Int} {index : Nat}
    (later : Precedes (position + index * step) limit step) : Precedes position limit step := by
  rcases later with ⟨forward, less⟩ | ⟨backward, less⟩
  · have travelled : 0 ≤ index * step :=
      Int.mul_nonneg (Int.natCast_nonneg index) (Int.le_of_lt forward)
    exact .inl ⟨forward, by omega⟩
  · have travelled : index * step ≤ 0 :=
      Int.mul_nonpos_of_nonneg_of_nonpos (Int.natCast_nonneg index) (Int.le_of_lt backward)
    exact .inr ⟨backward, by omega⟩

theorem isProgression_nil {first limit step : Int} (arrived : ¬ Precedes first limit step) :
    IsProgression first limit step [] := by
  refine ⟨0, fun index => ?_, rfl⟩
  exact iff_of_false (Nat.not_lt_zero index) fun later => arrived later.earlier

theorem IsProgression.cons {first limit step : Int} {terms : List Int}
    (precedes : Precedes first limit step)
    (rest : IsProgression (first + step) limit step terms) :
    IsProgression first limit step (first :: terms) := by
  obtain ⟨count, counted, rfl⟩ := rest
  have shifted (index : Nat) : first + step + index * step = first + (index + 1 : Nat) * step := by
    rw [Int.natCast_succ, Int.add_mul, Int.one_mul]
    omega
  refine ⟨count + 1, ?_, ?_⟩
  · intro index
    cases index with
    | zero => simpa using precedes
    | succ index => rw [← shifted, ← counted, Nat.succ_lt_succ_iff]
  · rw [List.range_succ_eq_map, List.map_cons, List.map_map]
    simp only [shifted, Function.comp_def, Nat.succ_eq_add_one, Int.natCast_zero, Int.zero_mul,
      Int.add_zero]

/-- Where another step would leave the words, it would leave the range of the walk as well. -/
theorem not_precedes_of_checkedAdd? {position limit step : Int64}
    (overflow : checkedAdd? position step = none) :
    ¬ Precedes (position.toInt + step.toInt) limit.toInt step.toInt := by
  have lower := limit.minValue_le_toInt
  have upper := limit.toInt_le
  have within := position.minValue_le_toInt
  have within' := position.toInt_le
  have exceeds := exceeds_of_checkedAdd? overflow
  rw [Precedes]
  omega

theorem isProgression_walk (position limit step : Int64) :
    IsProgression position.toInt limit.toInt step.toInt
      ((walk position limit step).map Int64.toInt) := by
  induction position using walk.induct limit step with
  | case1 position before ih =>
    rw [walk, dif_pos before, List.map_cons]
    apply IsProgression.cons (before_iff.1 before)
    split
    · next next advance =>
      rw [← toInt_of_checkedAdd? advance]
      exact ih next advance
    · next overflow => exact isProgression_nil (not_precedes_of_checkedAdd? overflow)
  | case2 position arrived =>
    rw [walk, dif_neg arrived]
    exact isProgression_nil (mt before_iff.2 arrived)

-- Where a walk over a sequence can begin or end.
def InReach (length step bound : Int) : Prop :=
  if 0 < step then 0 ≤ bound ∧ bound ≤ length else -1 ≤ bound ∧ bound ≤ length - 1

theorem inReach_exactBound {length : Int} (natural : 0 ≤ length) (step bound : Int) :
    InReach length step (exactBound length step bound) := by
  rw [InReach, exactBound]
  split <;> omega

theorem inReach_exactFirst {length : Int} (natural : 0 ≤ length) (start : Option Int64)
    (step : Int) : InReach length step (exactFirst length start step) := by
  cases start with
  | some bound => exact inReach_exactBound natural step bound.toInt
  | none =>
    rw [InReach, exactFirst]
    split <;> omega

theorem inReach_exactLimit {length : Int} (natural : 0 ≤ length) (stop : Option Int64)
    (step : Int) : InReach length step (exactLimit length stop step) := by
  cases stop with
  | some bound => exact inReach_exactBound natural step bound.toInt
  | none =>
    rw [InReach, exactLimit]
    split <;> omega

namespace IsProgression

variable {length first limit step : Int} {terms : List Int}

theorem nodup (progression : IsProgression first limit step terms) (nonzero : step ≠ 0) :
    terms.Nodup := by
  obtain ⟨count, -, rfl⟩ := progression
  refine List.Nodup.map ?_ List.nodup_range
  intro index other same
  have travelled : (index : Int) * step = other * step := Int.add_left_cancel same
  exact Int.ofNat_inj.1 (Int.eq_of_mul_eq_mul_right nonzero travelled)

/-- A walk that begins and ends in reach of a sequence comes upon positions of it only. -/
theorem within (progression : IsProgression first limit step terms)
    (begins : InReach length step first) (ends : InReach length step limit) {term : Int}
    (member : term ∈ terms) : 0 ≤ term ∧ term < length := by
  obtain ⟨count, counted, rfl⟩ := progression
  obtain ⟨index, listed, rfl⟩ := List.mem_map.1 member
  have precedes := (counted index).1 (List.mem_range.1 listed)
  rw [InReach] at begins ends
  rcases precedes with ⟨forward, less⟩ | ⟨backward, less⟩
  · have travelled : 0 ≤ index * step :=
      Int.mul_nonneg (Int.natCast_nonneg index) (Int.le_of_lt forward)
    rw [if_pos forward] at begins ends
    omega
  · have travelled : index * step ≤ 0 :=
      Int.mul_nonpos_of_nonneg_of_nonpos (Int.natCast_nonneg index) (Int.le_of_lt backward)
    rw [if_neg (by omega)] at begins ends
    omega

end IsProgression

section

variable {length : Nat} {step : Int64} (start stop : Option Int64)

theorem isProgression_positions (fits : length < 0x8000000000000000) (nonzero : step ≠ 0) :
    IsProgression (exactFirst length start step.toInt) (exactLimit length stop step.toInt)
      step.toInt ((positions length start stop step).map Int64.toInt) := by
  have word := toInt_lengthWord fits
  have natural : 0 ≤ (lengthWord length).toInt := word ▸ Int.natCast_nonneg length
  rw [← word, ← toInt_firstPosition natural nonzero, ← toInt_limit natural nonzero]
  exact isProgression_walk ..

theorem positions_within (fits : length < 0x8000000000000000) (nonzero : step ≠ 0)
    {position : Int64} (member : position ∈ positions length start stop step) :
    0 ≤ position.toInt ∧ position.toInt < length := by
  have natural : 0 ≤ (length : Int) := Int.natCast_nonneg length
  have progression := isProgression_positions start stop fits nonzero
  apply progression.within (inReach_exactFirst natural start _) (inReach_exactLimit natural stop _)
  exact List.mem_map_of_mem member

theorem nodup_positions (fits : length < 0x8000000000000000) (nonzero : step ≠ 0) :
    (positions length start stop step).Nodup := by
  have other : step.toInt ≠ 0 := fun zero => nonzero (Int64.toInt_inj.1 zero)
  exact List.Nodup.of_map _ ((isProgression_positions start stop fits nonzero).nodup other)

theorem length_positions_le (fits : length < 0x8000000000000000) (nonzero : step ≠ 0) :
    (positions length start stop step).length ≤ length := by
  have distinct : ((positions length start stop step).map fun position =>
      position.toInt.toNat).Nodup := by
    refine (nodup_positions start stop fits nonzero).map_on ?_
    intro position member other member' same
    have natural := positions_within start stop fits nonzero member
    have natural' := positions_within start stop fits nonzero member'
    exact Int64.toInt_inj.1 (by omega)
  have included : ((positions length start stop step).map fun position =>
      position.toInt.toNat) ⊆ List.range length := by
    intro index listed
    obtain ⟨position, member, rfl⟩ := List.mem_map.1 listed
    have within := positions_within start stop fits nonzero member
    exact List.mem_range.2 (by omega)
  simpa using (List.subperm_of_subset distinct included).length_le

end

theorem forall₂_filterMap {α β : Type} {choose : α → Option β} {items : List α}
    (chosen : ∀ item ∈ items, ∃ result, choose item = some result) :
    List.Forall₂ (fun item result => choose item = some result) items
      (items.filterMap choose) := by
  induction items with
  | nil => exact .nil
  | cons item rest ih =>
    obtain ⟨⟨result, found⟩, others⟩ := List.forall_mem_cons.1 chosen
    rw [List.filterMap_cons_some found]
    exact .cons found (ih others)

theorem forall₂_select {α : Type} {elements : List α} {step : Int64} (start stop : Option Int64)
    (fits : elements.length < 0x8000000000000000) (nonzero : step ≠ 0) :
    List.Forall₂ (fun position element => elements[position.toInt.toNat]? = some element)
      (positions elements.length start stop step) (select elements start stop step) := by
  apply forall₂_filterMap
  intro position member
  have within := positions_within start stop fits nonzero member
  exact ⟨_, List.getElem?_eq_getElem (show position.toInt.toNat < elements.length by omega)⟩

end DocQuery.Slice
