import DocQuery.Proofs.Members
import DocQuery.Proofs.Slice

/-! What a slice holds at each of its places.

A slice is read off at a place by the term of its progression. Slices of a list are compared with
other lists in this way, one place after the other, and so is what an index means.
-/

set_option autoImplicit false

namespace DocQuery.Slice

variable {α : Type}

instance (position limit step : Int) : Decidable (Precedes position limit step) :=
  inferInstanceAs (Decidable (_ ∨ _))

theorem IsProgression.getElem?_eq {first limit step : Int} {terms : List Int}
    (progression : IsProgression first limit step terms) (place : Nat) :
    terms[place]? =
      if Precedes (first + place * step) limit step then some (first + place * step)
      else none := by
  obtain ⟨count, counted, rfl⟩ := progression
  rw [List.getElem?_map]
  by_cases listed : place < count
  · rw [if_pos ((counted place).1 listed), List.getElem?_range listed]
    rfl
  · rw [if_neg (mt (counted place).2 listed), List.getElem?_eq_none (by simpa using listed)]
    rfl

/-- At each place a slice holds the element at the term of that place, as long as this precedes the
limit. -/
theorem getElem?_select {elements : List α} {step : Int64} (start stop : Option Int64)
    (fits : elements.length < 0x8000000000000000) (nonzero : step ≠ 0) (place : Nat)
    (position : Int)
    (term : exactFirst elements.length start step.toInt + place * step.toInt = position) :
    (select elements start stop step)[place]? =
      if Precedes position (exactLimit elements.length stop step.toInt) step.toInt then
        elements[position.toNat]?
      else none := by
  have terms := (isProgression_positions start stop fits nonzero).getElem?_eq place
  have found := forall₂_getElem? (forall₂_select start stop fits nonzero) place
  rw [List.getElem?_map, term] at terms
  generalize (positions elements.length start stop step)[place]? = listed,
    (select elements start stop step)[place]? = selected at terms found ⊢
  split
  · next precedes =>
    rw [if_pos precedes] at terms
    cases found with
    | none => cases terms
    | some same =>
      cases terms
      exact same.symm
  · next beyond =>
    rw [if_neg beyond] at terms
    cases found with
    | none => rfl
    | some same => cases terms

theorem ne_zero_of_pos {step : Int64} (forward : 0 < step.toInt) : step ≠ 0 := by
  intro zero
  rw [zero, Int64.toInt_zero] at forward
  exact Int.lt_irrefl 0 forward

/-- Where a bound cuts a list in two. -/
def cut (length : Nat) (bound : Int64) : Nat :=
  (exactBound length 1 bound.toInt).toNat

theorem natCast_cut (length : Nat) (bound : Int64) :
    (cut length bound : Int) = exactBound length 1 bound.toInt := by
  have reach := inReach_exactBound (Int.natCast_nonneg length) 1 bound.toInt
  rw [InReach, if_pos Int.one_pos] at reach
  exact Int.toNat_of_nonneg reach.1

theorem exactFirst_one (length : Nat) (start : Option Int64) :
    exactFirst length start 1 = (start.elim 0 (cut length) : Nat) := by
  cases start with
  | none => rfl
  | some bound => exact (natCast_cut length bound).symm

theorem exactLimit_one (length : Nat) (stop : Option Int64) :
    exactLimit length stop 1 = (stop.elim length (cut length) : Nat) := by
  cases stop with
  | none => rfl
  | some bound => exact (natCast_cut length bound).symm

section

variable {elements : List α} (fits : elements.length < 0x8000000000000000)

include fits

theorem select_one (start stop : Option Int64) :
    select elements start stop 1 =
      (elements.take (stop.elim elements.length (cut elements.length))).drop
        (start.elim 0 (cut elements.length)) := by
  have one : (1 : Int64).toInt = 1 := rfl
  apply List.ext_getElem?
  intro place
  rw [getElem?_select start stop fits (by decide) place _ rfl, List.getElem?_drop,
    List.getElem?_take, one, exactFirst_one, exactLimit_one]
  generalize start.elim 0 (cut elements.length) = first,
    stop.elim elements.length (cut elements.length) = limit
  have position : ((first : Int) + place * 1).toNat = first + place := by omega
  rw [position]
  apply if_congr _ rfl rfl
  rw [Precedes]
  omega

theorem select_append (bound : Int64) :
    select elements none (some bound) 1 ++ select elements (some bound) none 1 = elements := by
  rw [select_one fits, select_one fits]
  simp

-- The positions go from the last one down to the first.
theorem select_backwards : select elements none none (-1) = elements.reverse := by
  have backwards : (-1 : Int64).toInt = -1 := rfl
  apply List.ext_getElem?
  intro place
  rw [getElem?_select none none fits (by decide) place _ rfl, backwards]
  have first : exactFirst elements.length none (-1) = elements.length - 1 := rfl
  have limit : exactLimit elements.length none (-1) = -1 := rfl
  rw [first, limit]
  by_cases inside : place < elements.length
  · rw [if_pos (.inr ⟨by omega, by omega⟩), List.getElem?_reverse inside]
    congr 1
    omega
  · rw [if_neg (by rw [Precedes]; omega), List.getElem?_eq_none (by simpa using inside)]

theorem getElem?_select_every {step : Int64} (forward : 0 < step.toInt) (place : Nat) :
    (select elements none none step)[place]? = elements[place * step.toInt.toNat]? := by
  have nonzero := ne_zero_of_pos forward
  have first : exactFirst elements.length none step.toInt = 0 := if_pos forward
  have limit : exactLimit elements.length none step.toInt = elements.length := if_pos forward
  have stride : (step.toInt.toNat : Int) = step.toInt := Int.toNat_of_nonneg (Int.le_of_lt forward)
  have term : exactFirst elements.length none step.toInt + place * step.toInt =
      (place * step.toInt.toNat : Nat) := by
    rw [first, Int.zero_add, Int.natCast_mul, stride]
  rw [getElem?_select none none fits nonzero place _ term, limit, Int.toNat_natCast]
  by_cases inside : place * step.toInt.toNat < elements.length
  · rw [if_pos (.inl ⟨forward, Int.ofNat_lt.2 inside⟩)]
  · rw [if_neg (by rw [Precedes]; omega), List.getElem?_eq_none (Nat.le_of_not_lt inside)]

theorem length_select_le (start stop : Option Int64) {step : Int64} (nonzero : step ≠ 0) :
    (select elements start stop step).length ≤ elements.length := by
  rw [← (forall₂_select start stop fits nonzero).length_eq]
  exact length_positions_le start stop fits nonzero

omit fits in
theorem toInt_mul_of_le {step further : Int64} (forward : 0 < step.toInt)
    (forward' : 0 < further.toInt)
    (small : step.toInt * further.toInt ≤ Int64.maxValue.toInt) :
    (step * further).toInt = step.toInt * further.toInt := by
  have positive := Int.mul_pos forward forward'
  rw [Int64.toInt_maxValue] at small
  rw [Int64.toInt_mul]
  apply Int.bmod_eq_of_le <;> omega

/-- Of the multiples of a step, every multiple of another is a multiple of the product. -/
theorem select_every_every {step further : Int64} (forward : 0 < step.toInt)
    (forward' : 0 < further.toInt)
    (small : step.toInt * further.toInt ≤ Int64.maxValue.toInt) :
    select (select elements none none step) none none further =
      select elements none none (step * further) := by
  have product := toInt_mul_of_le forward forward' small
  -- The inner slice is no longer than the list, and can be read off at its places as well.
  have fits' := Nat.lt_of_le_of_lt (length_select_le fits none none (ne_zero_of_pos forward)) fits
  have forward'' : 0 < (step * further).toInt := product ▸ Int.mul_pos forward forward'
  have stride : (step * further).toInt.toNat = further.toInt.toNat * step.toInt.toNat := by
    rw [product, Int.toNat_mul (Int.le_of_lt forward) (Int.le_of_lt forward'), Nat.mul_comm]
  apply List.ext_getElem?
  intro place
  rw [getElem?_select_every fits' forward', getElem?_select_every fits forward,
    getElem?_select_every fits forward'', stride, Nat.mul_assoc]

end

/-- An index is one of a sequence, counted from its beginning or from its end. -/
def Inside (length : Nat) (index : Int64) : Prop :=
  -length ≤ index.toInt ∧ index.toInt < length

instance (length : Nat) (index : Int64) : Decidable (Inside length index) :=
  inferInstanceAs (Decidable (_ ∧ _))

variable {length : Nat} {index : Int64}

theorem natCast_cut_of_inside (inside : Inside length index) :
    (cut length index : Int) =
      if index.toInt < 0 then index.toInt + length else index.toInt := by
  obtain ⟨lower, upper⟩ := inside
  rw [natCast_cut, exactBound, if_pos Int.one_pos]
  split <;> omega

theorem cut_lt_of_inside (inside : Inside length index) : cut length index < length := by
  have position := natCast_cut_of_inside inside
  obtain ⟨lower, upper⟩ := inside
  split at position <;> omega

-- A negative index and a length never exceed a word together.
theorem exists_fromStart (index : Int64) (fits : length < 0x8000000000000000) :
    ∃ position, fromStart? index (lengthWord length) = some position ∧
      position.toInt = if index.toInt < 0 then index.toInt + length else index.toInt := by
  have word := toInt_lengthWord fits
  have lower := index.minValue_le_toInt
  have upper := (lengthWord length).toInt_le
  simp only [fromStart?, Int64.lt_iff_toInt_lt, Int64.toInt_zero]
  split
  · next negative =>
    have sum := checkedAdd?_of_le (x := lengthWord length) (y := index) (by omega) (by omega)
    refine ⟨_, sum, ?_⟩
    rw [toInt_of_checkedAdd? sum, word, Int.add_comm]
  · exact ⟨index, rfl, rfl⟩

/-- An index of a sequence means the position at which a slice from there begins. -/
theorem resolveIndex_eq (index : Int64) (fits : length < 0x8000000000000000) :
    resolveIndex index length = if Inside length index then some (cut length index) else none := by
  obtain ⟨position, counted, value⟩ := exists_fromStart index fits
  simp only [resolveIndex, word?_of_lt fits, counted, Option.bind_eq_bind, Option.bind_some,
    Int64.le_iff_toInt_le, Int64.lt_iff_toInt_lt, toInt_lengthWord fits, Int64.toInt_zero, value]
  by_cases inside : Inside length index
  · have bound := cut_lt_of_inside inside
    rw [← natCast_cut_of_inside inside, if_pos inside, if_pos (by omega), Int.toNat_natCast]
  · rw [if_neg inside, if_neg]
    rw [Inside] at inside
    split <;> omega

theorem resolveIndex_of_not_inside (outside : ¬ Inside length index) :
    resolveIndex index length = none := by
  by_cases fits : length < 0x8000000000000000
  · rw [resolveIndex_eq index fits, if_neg outside]
  · rw [resolveIndex, word?, if_neg fits]
    rfl

def elementAt? (elements : List α) (index : Int64) : Option α :=
  (resolveIndex index elements.length).bind (elements[·]?)

theorem elementAt?_of_inside {elements : List α} (fits : elements.length < 0x8000000000000000)
    (inside : Inside elements.length index) :
    elementAt? elements index = elements[cut elements.length index]? := by
  rw [elementAt?, resolveIndex_eq index fits, if_pos inside, Option.bind_some]

theorem elementAt?_of_outside {elements : List α} (outside : ¬ Inside elements.length index) :
    elementAt? elements index = none := by
  rw [elementAt?, resolveIndex_of_not_inside outside, Option.bind_none]

theorem elementAt?_of_place {elements : List α} (fits : elements.length < 0x8000000000000000)
    {place : Nat} (bound : place < elements.length)
    (means : index.toInt = place ∨ index.toInt = place - elements.length) :
    elementAt? elements index = elements[place]? := by
  have inside : Inside elements.length index := by
    rw [Inside]
    omega
  have position := natCast_cut_of_inside inside
  have same : cut elements.length index = place := by
    split at position <;> omega
  rw [elementAt?_of_inside fits inside, same]

theorem exists_select_from_of_inside {elements : List α}
    (fits : elements.length < 0x8000000000000000) (inside : Inside elements.length index) :
    ∃ first rest, select elements (some index) none 1 = first :: rest ∧
      elementAt? elements index = some first := by
  have bound := cut_lt_of_inside inside
  refine ⟨elements[cut elements.length index], elements.drop (cut elements.length index + 1),
    ?_, ?_⟩
  · rw [select_one fits]
    simp
  · rw [elementAt?_of_inside fits inside, List.getElem?_eq_getElem bound]

/-- The index of the same element, counted from the other end, is a word like every index. -/
theorem toInt_mirrored (index : Int64) : (-1 - index).toInt = -1 - index.toInt := by
  have lower := index.le_toInt
  have upper := index.toInt_lt
  have minusOne : (-1 : Int64).toInt = -1 := rfl
  rw [Int64.toInt_sub, minusOne]
  apply Int.bmod_eq_of_le <;> omega

theorem inside_mirrored : Inside length (-1 - index) ↔ Inside length index := by
  rw [Inside, Inside, toInt_mirrored]
  omega

-- One of the two indices counts from the end, and the other one does not.
theorem cut_mirrored (inside : Inside length index) :
    cut length (-1 - index) + (cut length index + 1) = length := by
  have position := natCast_cut_of_inside inside
  have position' := natCast_cut_of_inside (inside_mirrored.2 inside)
  rw [toInt_mirrored] at position'
  obtain ⟨lower, upper⟩ := inside
  split at position <;> split at position' <;> omega

theorem elementAt?_reverse {elements : List α} (fits : elements.length < 0x8000000000000000)
    (index : Int64) :
    elementAt? elements.reverse (-1 - index) = elementAt? elements index := by
  have sameLength : elements.reverse.length = elements.length := List.length_reverse
  by_cases inside : Inside elements.length index
  · have sum := cut_mirrored inside
    have place : elements.length - 1 - cut elements.length (-1 - index) =
        cut elements.length index := by omega
    rw [elementAt?_of_inside fits inside, elementAt?_of_inside (sameLength ▸ fits), sameLength,
      List.getElem?_reverse (by omega), place]
    rwa [sameLength, inside_mirrored]
  · rw [elementAt?_of_outside inside, elementAt?_of_outside]
    rwa [sameLength, inside_mirrored]

end DocQuery.Slice
