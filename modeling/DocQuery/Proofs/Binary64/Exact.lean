import DocQuery.Proofs.Json.Number

/-! Integers that are binary numbers.

Rounding leaves a size of up to 53 significant bits as it is, and every integer of a size up to
`2 ^ 53` has no more. Its nearest binary number is therefore the integer itself, and two of them are
equal as binary numbers only if they are the same.
-/

set_option autoImplicit false

namespace DocQuery.Binary64

theorem nearestInteger_mul (value : Nat) {denominator : Nat} (positive : 0 < denominator) :
    nearestInteger (value * denominator) denominator = value := by
  simp [nearestInteger, positive]

section

variable {significand shift : Nat} (lower : fractionCount ≤ significand)
  (upper : significand < 2 * fractionCount)

include lower upper

theorem log2_mul_pow : (significand * Nat.pow 2 shift).log2 = 52 + shift := by
  have positive : 0 < Nat.pow 2 shift := Nat.pow_pos (by decide)
  have nonzero : significand * Nat.pow 2 shift ≠ 0 := by
    apply Nat.mul_ne_zero
    · unfold fractionCount at lower
      omega
    · omega
  rw [Nat.log2_eq_iff nonzero]
  constructor
  · rw [Nat.pow_add]
    exact Nat.mul_le_mul_right _ lower
  · rw [Nat.add_right_comm, Nat.pow_add]
    exact Nat.mul_lt_mul_of_pos_right upper positive

-- The pattern of infinity has the exponent 2047, which these significands do not reach.
theorem nearestMagnitude_of_significand {numerator : Nat} (finite : shift ≤ 2045)
    (scaled : numerator * unitsPerOne = significand * Nat.pow 2 shift) :
    nearestMagnitude numerator 1 = shift * fractionCount + significand := by
  have positive : 0 < Nat.pow 2 shift := Nat.pow_pos (by decide)
  have leading : (significand * Nat.pow 2 shift).log2 - 52 = shift := by
    rw [log2_mul_pow lower upper, Nat.add_sub_cancel_left]
  simp only [nearestMagnitude, scaled, Nat.div_one, leading, Nat.one_mul]
  rw [nearestInteger_mul significand positive, Nat.min_eq_left]
  unfold fractionCount infiniteMagnitude at *
  omega

theorem units_of_significand {x : Binary64}
    (pattern : x.magnitude = shift * fractionCount + significand) :
    x.units = significand * Nat.pow 2 shift := by
  have exponent : x.magnitude / fractionCount = shift + 1 := by
    unfold fractionCount at *
    omega
  have fraction : fractionCount + x.magnitude % fractionCount = significand := by
    unfold fractionCount at *
    omega
  simp only [units, exponent, fraction, Nat.succ_ne_zero, if_false, Nat.add_sub_cancel]

end

-- The exponent stands apart, where nothing tries to compute the power.
theorem unitsPerOne_eq_pow {exponent : Nat} (given : exponent = 1074) :
    unitsPerOne = Nat.pow 2 exponent := by
  unfold unitsPerOne
  rw [← given]

theorem unitsPerOne_pos : 0 < unitsPerOne := by
  obtain ⟨exponent, given⟩ : ∃ exponent, exponent = 1074 := ⟨_, rfl⟩
  rw [unitsPerOne_eq_pow given]
  exact Nat.pow_pos (by decide)

theorem exists_significand {size : Nat} (positive : 0 < size) (small : size ≤ 2 * fractionCount) :
    ∃ significand shift, fractionCount ≤ significand ∧ significand < 2 * fractionCount ∧
      shift ≤ 2045 ∧ size * unitsPerOne = significand * Nat.pow 2 shift := by
  rcases Nat.eq_or_lt_of_le small with rfl | less
  · -- The greatest size has a bit more than the others, but that bit is zero.
    obtain ⟨exponent, given⟩ : ∃ exponent, exponent = 1074 := ⟨_, rfl⟩
    have next : 2 * Nat.pow 2 exponent = Nat.pow 2 (exponent + 1) := Nat.pow_succ'.symm
    refine ⟨fractionCount, exponent + 1, Nat.le_refl _, by decide, by omega, ?_⟩
    rw [unitsPerOne_eq_pow given, ← next, Nat.mul_comm 2, Nat.mul_assoc]
  · have nonzero : size ≠ 0 := by omega
    obtain ⟨lower, upper⟩ := (Nat.log2_eq_iff nonzero).1 rfl
    have bits : size.log2 ≤ 52 := Nat.le_of_lt_succ ((Nat.log2_lt nonzero).2 less)
    have exponents : 52 - size.log2 + (size.log2 + 1022) = 1074 := by omega
    have spread : 0 < Nat.pow 2 (52 - size.log2) := Nat.pow_pos (by decide)
    have leading : fractionCount = Nat.pow 2 size.log2 * Nat.pow 2 (52 - size.log2) := by
      refine Eq.trans ?_ (Nat.pow_add ..)
      rw [Nat.add_sub_cancel' bits]
      rfl
    refine ⟨size * Nat.pow 2 (52 - size.log2), size.log2 + 1022, ?_, ?_, by omega, ?_⟩
    · rw [leading]
      exact Nat.mul_le_mul_right _ lower
    · rw [leading, ← Nat.mul_assoc]
      exact Nat.mul_lt_mul_of_pos_right (Nat.pow_succ' ▸ upper) spread
    · rw [unitsPerOne_eq_pow exponents, Nat.mul_assoc]
      exact congrArg (size * ·) (Nat.pow_add ..)

theorem units_ofInt {value : Int} (small : value.natAbs ≤ 2 * fractionCount) :
    (ofInt value).units = value.natAbs * unitsPerOne := by
  rcases Nat.eq_zero_or_pos value.natAbs with zero | positive
  · cases Int.natAbs_eq_zero.1 zero
    rw [zero, Nat.zero_mul]
    decide +kernel
  · obtain ⟨significand, shift, lower, upper, finite, scaled⟩ := exists_significand positive small
    rw [scaled]
    exact units_of_significand lower upper
      (nearestMagnitude_of_significand lower upper finite scaled)

/-- An integer of a size up to `2 ^ 53` is its own nearest binary number. -/
theorem signedUnits_ofInt {value : Int} (small : value.natAbs ≤ 2 * fractionCount) :
    (ofInt value).signedUnits = value * unitsPerOne := by
  unfold signedUnits
  rw [units_ofInt small, Int.natCast_mul]
  change (if decide (value < 0) = true then _ else _) = _
  by_cases negative : value < 0
  · rw [if_pos (decide_eq_true negative), ← Int.neg_mul]
    congr 1
    omega
  · rw [if_neg (by simpa using negative)]
    congr 1
    omega

theorem signedUnits_eq_of_key {x y : Binary64} (same : x.key = y.key) :
    x.signedUnits = y.signedUnits := by
  rcases eq_or_zero_of_key same with rfl | ⟨zero, zero'⟩
  · rfl
  · simp [signedUnits, units, zero, zero']

/-- Among the integers of a size up to `2 ^ 53`, rounding makes no two equal. -/
theorem ofInt_equal_iff {first second : Int} (small : first.natAbs ≤ 2 * fractionCount)
    (small' : second.natAbs ≤ 2 * fractionCount) :
    (ofInt first).equal (ofInt second) = true ↔ first = second := by
  constructor
  · intro equal
    have values := signedUnits_eq_of_key (equal_iff.1 equal).2.2
    rw [signedUnits_ofInt small, signedUnits_ofInt small'] at values
    have one : (unitsPerOne : Int) ≠ 0 := Int.natCast_ne_zero.2 (Nat.ne_of_gt unitsPerOne_pos)
    exact Int.eq_of_mul_eq_mul_right one values
  · rintro rfl
    exact equal_self (isNaN_ofInt first)

end DocQuery.Binary64
