import DocQuery.Binary64.Decimal
import DocQuery.Proofs.Binary64.Exact

/-! Decimal numerals read back as the numbers they were found for.

The nearest number depends on the value of a numeral alone, not on how digits and exponent share
it. A candidate for the shortest numeral is only taken if it reads back; the exact value, which is
left if there were none, always does.
-/

set_option autoImplicit false

namespace DocQuery

theorem natPow_pos {base : Nat} (positive : 0 < base) (exponent : Nat) :
    0 < Nat.pow base exponent :=
  Nat.pow_pos positive

theorem natPow_mul_natPow (base first second : Nat) :
    Nat.pow base first * Nat.pow base second = Nat.pow base (first + second) :=
  (Nat.pow_add ..).symm

theorem mul_lt_of_mul_le {value bound factor limit : Nat} (small : value < bound)
    (positive : 0 < factor) (product : bound * factor ≤ limit) : value * factor < limit :=
  Nat.lt_of_lt_of_le (Nat.mul_lt_mul_of_pos_right small positive) product

namespace Binary64

theorem nearestInteger_mul_mul (numerator denominator : Nat) {factor : Nat}
    (positive : 0 < factor) :
    nearestInteger (numerator * factor) (denominator * factor) =
      nearestInteger numerator denominator := by
  simp only [nearestInteger, Nat.mul_div_mul_right _ _ positive, Nat.mul_mod_mul_right,
    ← Nat.mul_assoc, Nat.mul_lt_mul_right positive]

theorem nearestMagnitude_mul_mul (numerator denominator : Nat) {factor : Nat}
    (positive : 0 < factor) :
    nearestMagnitude (numerator * factor) (denominator * factor) =
      nearestMagnitude numerator denominator := by
  simp only [nearestMagnitude, Nat.mul_right_comm _ factor, Nat.mul_div_mul_right _ _ positive,
    nearestInteger_mul_mul _ _ positive]

theorem nearestMagnitude_congr {numerator denominator numerator' denominator' : Nat}
    (positive : 0 < denominator) (positive' : 0 < denominator')
    (same : numerator * denominator' = numerator' * denominator) :
    nearestMagnitude numerator denominator = nearestMagnitude numerator' denominator' := by
  rw [← nearestMagnitude_mul_mul numerator denominator positive', same,
    Nat.mul_comm denominator, nearestMagnitude_mul_mul numerator' denominator' positive]

/-- The units of a finite number are a significand of up to 53 bits, shifted unless the number is
subnormal. -/
theorem exists_units (x : Binary64) : ∃ significand shift,
    x.units = significand * Nat.pow 2 shift ∧ x.units.log2 - 52 = shift ∧
      significand < 2 * fractionCount ∧ x.magnitude = shift * fractionCount + significand := by
  by_cases subnormal : x.magnitude < fractionCount
  · have units : x.units = x.magnitude := by
      simp [Binary64.units, Nat.div_eq_of_lt subnormal, Nat.mod_eq_of_lt subnormal]
    have bits : x.magnitude.log2 ≤ 52 := by
      by_cases zero : x.magnitude = 0
      · rw [zero]
        decide
      · exact Nat.le_of_lt_succ ((Nat.log2_lt zero).2 (Nat.lt_trans subnormal (by decide)))
    refine ⟨x.magnitude, 0, units.trans (Nat.mul_one _).symm, ?_,
      Nat.lt_trans subnormal (by decide), ?_⟩
    · rw [units, Nat.sub_eq_zero_iff_le.2 bits]
    · rw [Nat.zero_mul, Nat.zero_add]
  · have lower : fractionCount ≤ fractionCount + x.magnitude % fractionCount :=
      Nat.le_add_right _ _
    have upper : fractionCount + x.magnitude % fractionCount < 2 * fractionCount := by
      unfold fractionCount
      omega
    have pattern : x.magnitude = (x.magnitude / fractionCount - 1) * fractionCount +
        (fractionCount + x.magnitude % fractionCount) := by
      unfold fractionCount at *
      omega
    have units := units_of_significand lower upper pattern
    refine ⟨_, _, units, ?_, upper, pattern⟩
    rw [units, log2_mul_pow lower upper, Nat.add_sub_cancel_left]

theorem nearestMagnitude_units {x : Binary64} (finite : x.isFinite = true) :
    nearestMagnitude x.units unitsPerOne = x.magnitude := by
  have bounded : x.magnitude < infiniteMagnitude := of_decide_eq_true finite
  have cancelled : x.units * unitsPerOne / unitsPerOne = x.units :=
    Nat.mul_div_cancel _ unitsPerOne_pos
  obtain ⟨significand, shift, units, leading, -, pattern⟩ := x.exists_units
  have positive : 0 < Nat.pow 2 shift * unitsPerOne :=
    Nat.mul_pos (natPow_pos (by decide) shift) unitsPerOne_pos
  simp only [nearestMagnitude, cancelled, leading]
  rw [units, Nat.mul_assoc, Nat.mul_comm unitsPerOne, nearestInteger_mul significand positive,
    ← pattern]
  exact Nat.min_eq_left (Nat.le_of_lt bounded)

end Binary64

namespace Decimal

theorem natural_mul_ten {value : Nat} (positive : 0 < value) :
    natural (value * 10) = natural value ++ ['0'] := by
  have appended := Nat.toDigits_append_toDigits (by decide : 1 < 10) positive (by decide : 0 < 10)
  rw [Nat.toDigits_zero, Nat.add_zero, Nat.mul_comm] at appended
  exact appended.symm

theorem natural_mul_pow {value : Nat} (positive : 0 < value) (zeros : Nat) :
    natural (value * Nat.pow 10 zeros) = natural value ++ List.replicate zeros '0' := by
  induction zeros with
  | zero => exact (congrArg natural (Nat.mul_one value)).trans (List.append_nil _).symm
  | succ zeros ih =>
    have further : value * Nat.pow 10 (zeros + 1) = value * Nat.pow 10 zeros * 10 :=
      (Nat.mul_assoc _ _ _).symm
    have product := Nat.mul_pos positive (natPow_pos (by decide : 0 < 10) zeros)
    rw [further, natural_mul_ten product, ih, List.append_assoc, List.replicate_succ']

theorem length_natural_of_bounds {value small large : Nat} (nonzero : small ≠ 0)
    (lower : Nat.pow 10 small ≤ value) (upper : value < Nat.pow 10 large) :
    small < (natural value).length ∧ (natural value).length ≤ large := by
  have powers : Nat.pow 10 small < Nat.pow 10 large := Nat.lt_of_le_of_lt lower upper
  have ordered : small < large := (Nat.pow_lt_pow_iff_right (by decide)).1 powers
  constructor
  · apply Nat.lt_of_not_le
    exact fun short => Nat.not_lt.2 lower
      ((Nat.length_toDigits_le_iff (by decide) (Nat.pos_of_ne_zero nonzero)).1 short)
  · exact (Nat.length_toDigits_le_iff (by decide) (Nat.zero_lt_of_lt ordered)).2 upper

def position (numeral : Decimal) : Int :=
  numeral.exponent + (natural numeral.digits).length

-- Unless a numeral is settled by its length, it is a quotient of integers.
theorem nearestMagnitude_eq (numeral : Decimal) :
    numeral.nearestMagnitude =
      if numeral.digits = 0 ∨ numeral.position < -400 then 0
      else if 400 < numeral.position then Binary64.infiniteMagnitude
      else Binary64.nearestMagnitude (numeral.digits * Nat.pow 10 numeral.exponent.toNat)
        (Nat.pow 10 (-numeral.exponent).toNat) := by
  have ratio : (if 0 ≤ numeral.exponent then
        Binary64.nearestMagnitude (numeral.digits * Nat.pow 10 numeral.exponent.toNat) 1
      else Binary64.nearestMagnitude numeral.digits (Nat.pow 10 (-numeral.exponent).toNat)) =
      Binary64.nearestMagnitude (numeral.digits * Nat.pow 10 numeral.exponent.toNat)
        (Nat.pow 10 (-numeral.exponent).toNat) := by
    split
    · next whole =>
      have none : (-numeral.exponent).toNat = 0 := by omega
      rw [none]
    · next fractional =>
      have none : numeral.exponent.toNat = 0 := by omega
      rw [none]
      exact congrArg (Binary64.nearestMagnitude · _) (Nat.mul_one numeral.digits).symm
  rw [← ratio]
  rfl

/-- Zeros at the end of a numeral may as well be counted in its exponent. -/
theorem nearestMagnitude_mul_pow (digits zeros : Nat) (exponent : Int) :
    nearestMagnitude ⟨digits * Nat.pow 10 zeros, exponent⟩ =
      nearestMagnitude ⟨digits, exponent + zeros⟩ := by
  rcases Nat.eq_zero_or_pos digits with rfl | positive
  · simp [nearestMagnitude_eq]
  · have nonzero : digits * Nat.pow 10 zeros ≠ 0 :=
      Nat.ne_of_gt (Nat.mul_pos positive (natPow_pos (by decide) zeros))
    have positions : position ⟨digits * Nat.pow 10 zeros, exponent⟩ =
        position ⟨digits, exponent + zeros⟩ := by
      simp only [position, natural_mul_pow positive, List.length_append, List.length_replicate]
      omega
    have exponents : zeros + exponent.toNat + (-(exponent + zeros)).toNat =
        (exponent + zeros).toNat + (-exponent).toNat := by omega
    have powers : Nat.pow 10 zeros * Nat.pow 10 exponent.toNat *
        Nat.pow 10 (-(exponent + zeros)).toNat =
        Nat.pow 10 (exponent + zeros).toNat * Nat.pow 10 (-exponent).toNat := by
      rw [natPow_mul_natPow, natPow_mul_natPow, natPow_mul_natPow, exponents]
    have ratios : Binary64.nearestMagnitude (digits * Nat.pow 10 zeros * Nat.pow 10 exponent.toNat)
          (Nat.pow 10 (-exponent).toNat) =
        Binary64.nearestMagnitude (digits * Nat.pow 10 (exponent + zeros).toNat)
          (Nat.pow 10 (-(exponent + zeros)).toNat) := by
      apply Binary64.nearestMagnitude_congr (natPow_pos (by decide) _) (natPow_pos (by decide) _)
      rw [Nat.mul_assoc digits, Nat.mul_assoc digits, powers, Nat.mul_assoc]
    simp only [nearestMagnitude_eq, positions, ratios, nonzero, Nat.ne_of_gt positive]

end Decimal

namespace Binary64

theorem units_pos {x : Binary64} (nonzero : x.magnitude ≠ 0) : 0 < x.units := by
  obtain ⟨significand, shift, units, leading, -, pattern⟩ := x.exists_units
  rcases Nat.eq_zero_or_pos x.units with none | positive
  · rw [none] at leading
    cases leading
    have zero : significand = 0 := by simpa [none] using units.symm
    rw [pattern, zero] at nonzero
    exact absurd rfl nonzero
  · exact positive

theorem units_lt {x : Binary64} (finite : x.isFinite = true) {greatest : Nat}
    (given : greatest = 2046) : x.units < 2 * fractionCount * Nat.pow 2 greatest := by
  have bounded : x.magnitude < infiniteMagnitude := of_decide_eq_true finite
  obtain ⟨significand, shift, units, -, upper, pattern⟩ := x.exists_units
  have exponents : shift + (greatest - shift) = greatest := by
    unfold fractionCount infiniteMagnitude at *
    omega
  rw [units]
  calc significand * Nat.pow 2 shift
    _ < 2 * fractionCount * Nat.pow 2 shift :=
      Nat.mul_lt_mul_of_pos_right upper (natPow_pos (by decide) shift)
    _ ≤ 2 * fractionCount * (Nat.pow 2 shift * Nat.pow 2 (greatest - shift)) :=
      Nat.mul_le_mul_left _ (Nat.le_mul_of_pos_right _ (natPow_pos (by decide) _))
    _ = 2 * fractionCount * Nat.pow 2 greatest := by rw [natPow_mul_natPow, exponents]

section

variable {x : Binary64} (finite : x.isFinite = true) (nonzero : x.magnitude ≠ 0) {exponent : Nat}
  (given : exponent = 1074)

include given

theorem exactDecimal_eq : x.exactDecimal = ⟨x.units * Nat.pow 5 exponent, -(exponent : Int)⟩ := by
  have shift : (-1074 : Int) = -(exponent : Int) := by omega
  rw [exactDecimal, shift, ← given]

include finite

theorem nearestMagnitude_exact_ratio :
    nearestMagnitude (x.units * Nat.pow 5 exponent) (Nat.pow 10 exponent) = x.magnitude := by
  have powers : Nat.pow 10 exponent = Nat.pow 5 exponent * unitsPerOne := by
    rw [unitsPerOne_eq_pow given]
    exact Nat.mul_pow 5 2 exponent
  rw [powers, Nat.mul_comm (Nat.pow 5 exponent),
    nearestMagnitude_mul_mul _ _ (natPow_pos (by decide) exponent), nearestMagnitude_units finite]

include nonzero

theorem length_exact_digits {few many : Nat} (least : few = 673) (greatest : many = 1474) :
    few < (Decimal.natural (x.units * Nat.pow 5 exponent)).length ∧
      (Decimal.natural (x.units * Nat.pow 5 exponent)).length ≤ many := by
  obtain ⟨shift, top⟩ : ∃ shift, shift = 2046 := ⟨_, rfl⟩
  have lower : Nat.pow 10 few ≤ Nat.pow 5 exponent := by
    rw [given, least]
    decide +kernel
  have upper : 2 * fractionCount * Nat.pow 2 shift * Nat.pow 5 exponent ≤ Nat.pow 10 many := by
    rw [given, top, greatest]
    decide +kernel
  apply Decimal.length_natural_of_bounds (by omega)
  · exact Nat.le_trans lower (Nat.le_mul_of_pos_left _ (units_pos nonzero))
  · exact mul_lt_of_mul_le (units_lt finite top) (natPow_pos (by decide) exponent) upper

end

theorem nearestMagnitude_exactDecimal {x : Binary64} (finite : x.isFinite = true)
    (nonzero : x.magnitude ≠ 0) : x.exactDecimal.nearestMagnitude = x.magnitude := by
  obtain ⟨exponent, given⟩ : ∃ exponent, exponent = 1074 := ⟨_, rfl⟩
  obtain ⟨lower, upper⟩ := length_exact_digits finite nonzero given rfl rfl
  have digits : x.units * Nat.pow 5 exponent ≠ 0 :=
    Nat.ne_of_gt (Nat.mul_pos (units_pos nonzero) (natPow_pos (by decide) exponent))
  have whole : (-(exponent : Int)).toNat = 0 := by omega
  have fractional : (- -(exponent : Int)).toNat = exponent := by omega
  rw [exactDecimal_eq given, Decimal.nearestMagnitude_eq, if_neg, if_neg, whole, fractional]
  · refine Eq.trans ?_ (nearestMagnitude_exact_ratio finite given)
    exact congrArg (nearestMagnitude · _) (Nat.mul_one _)
  · unfold Decimal.position
    dsimp only
    omega
  · unfold Decimal.position
    dsimp only
    omega

/-- The shortest numeral of a nonzero finite number reads back as the number. -/
theorem nearestMagnitude_shortestDecimal {x : Binary64} (finite : x.isFinite = true)
    (nonzero : x.magnitude ≠ 0) : x.shortestDecimal.nearestMagnitude = x.magnitude := by
  unfold shortestDecimal
  dsimp only
  generalize hit : (List.range 17).findSome? _ = found
  cases found with
  | none => exact nearestMagnitude_exactDecimal finite nonzero
  | some numeral =>
    obtain ⟨further, -, first⟩ := List.exists_of_findSome?_eq_some hit
    have reads := List.find?_some first
    exact eq_of_beq reads

end Binary64

end DocQuery
