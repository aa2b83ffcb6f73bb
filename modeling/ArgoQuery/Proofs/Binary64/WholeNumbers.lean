import ArgoQuery.Proofs.Binary64.RoundedSums

/-!
# Whole numbers are kept exactly

Every whole number of at most 53 bits is what some magnitude stands for
(`exists_magnitude_of_whole`), and what a magnitude stands for is rounded to that magnitude. So the
number nearest to such a whole number is that number itself (`units_ofInt`), and so is the
difference of two of them (`ofInt_sub_ofInt`).
-/

namespace ArgoQuery.Binary64

/-- One as a product of powers of two. -/
theorem unitsPerOne_eq_mul {first second : Nat} (sum : first + second = 1074) :
    unitsPerOne = 2 ^ first * 2 ^ second := by
  unfold unitsPerOne
  revert sum
  generalize 1074 = exponent
  rintro rfl
  exact Nat.pow_add ..

/-- A whole number of at most 53 bits is what a finite magnitude stands for.

Its leading bit is moved to where a coefficient has it, and the gap makes up for the move. -/
theorem exists_magnitude_of_whole {whole : Nat} (small : whole < 2 ^ 53) :
    ∃ magnitude, magnitude < infiniteMagnitude ∧
      unitsOfMagnitude magnitude = whole * unitsPerOne := by
  rcases Nat.eq_zero_or_pos whole with rfl | positive
  · refine ⟨0, by decide, ?_⟩
    rw [Nat.zero_mul]
    rfl
  · obtain ⟨least, most⟩ := (Nat.log2_eq_iff positive.ne').mp (rfl : whole.log2 = whole.log2)
    have short : whole.log2 ≤ 52 := Nat.lt_succ_iff.mp ((Nat.log2_lt positive.ne').mpr small)
    have room : 52 - whole.log2 + (whole.log2 + 1022) = 1074 := by omega
    have scale := unitsPerOne_eq_mul room
    generalize whole.log2 = length at *
    have low : 2 ^ 52 ≤ whole * 2 ^ (52 - length) := by
      calc 2 ^ 52 = 2 ^ length * 2 ^ (52 - length) := by
            rw [← Nat.pow_add, Nat.add_sub_cancel' short]
        _ ≤ whole * 2 ^ (52 - length) := Nat.mul_le_mul_right _ least
    have high : whole * 2 ^ (52 - length) < 2 ^ 53 := by
      calc whole * 2 ^ (52 - length) < 2 ^ (length + 1) * 2 ^ (52 - length) :=
            Nat.mul_lt_mul_of_pos_right most (Nat.two_pow_pos _)
        _ = 2 ^ 53 := by
            rw [← Nat.pow_add]
            exact congrArg (2 ^ ·) (by omega)
    rw [scale, ← Nat.mul_assoc]
    generalize whole * 2 ^ (52 - length) = leading at *
    have exponent : ((length + 1022) * 2 ^ 52 + leading) / 2 ^ 52 = length + 1023 := by omega
    have fraction : ((length + 1022) * 2 ^ 52 + leading) % 2 ^ 52 = leading - 2 ^ 52 := by omega
    refine ⟨(length + 1022) * 2 ^ 52 + leading, ?_, ?_⟩
    · change _ < 2047 * 2 ^ 52
      omega
    · rw [unitsOfMagnitude_eq, coefficient, gap, exponent, fraction, if_neg (by omega),
        Nat.add_sub_cancel' low]
      rfl

/-- A ratio that a magnitude stands for is rounded to it. -/
theorem nearestMagnitude_eq_of_units {magnitude numerator denominator : Nat}
    (small : magnitude ≤ infiniteMagnitude) (positive : 0 < denominator)
    (exact_ratio : unitsOfMagnitude magnitude * denominator = numerator * unitsPerOne) :
    nearestMagnitude numerator denominator = magnitude := by
  have own := nearestMagnitude_unitsOfMagnitude small
  have below := nearestMagnitude_mono positive unitsPerOne_pos exact_ratio.ge
  have above := nearestMagnitude_mono unitsPerOne_pos positive exact_ratio.le
  omega

/-- Common factors of a ratio do not count. -/
theorem nearestMagnitude_mul_right (numerator : Nat) {denominator factor : Nat}
    (positive : 0 < denominator) (positive' : 0 < factor) :
    nearestMagnitude (numerator * factor) (denominator * factor) =
      nearestMagnitude numerator denominator := by
  have same : numerator * factor * denominator = numerator * (denominator * factor) := by ring
  have scaled := Nat.mul_pos positive positive'
  exact Nat.le_antisymm (nearestMagnitude_mono scaled positive same.le)
    (nearestMagnitude_mono positive scaled same.ge)

/-- Whether a number stands for a whole number. -/
def IsExactly (x : Binary64) (value : Int) : Prop :=
  x.isFinite = true ∧ x.units = value * unitsPerOne

section Whole

variable {value : Int} (small : value.natAbs < 2 ^ 53)

include small

/-- A whole number of fewer than 54 bits is not rounded: it has a finite magnitude with its units.
-/
theorem exists_ofInt_eq : ∃ magnitude, magnitude < infiniteMagnitude ∧
    unitsOfMagnitude magnitude = value.natAbs * unitsPerOne ∧
    ofInt value = ofMagnitude (decide (value < 0)) magnitude := by
  obtain ⟨magnitude, finite, stands⟩ := exists_magnitude_of_whole small
  refine ⟨magnitude, finite, stands, ?_⟩
  have nearest : nearestMagnitude value.natAbs 1 = magnitude :=
    nearestMagnitude_eq_of_units finite.le Nat.one_pos (by rw [stands, Nat.mul_one])
  rw [ofInt, ofRatio, nearest]

/-- The number nearest to a whole number stands for the whole number. -/
theorem units_ofInt : (ofInt value).units = value * unitsPerOne := by
  obtain ⟨magnitude, finite, stands, same⟩ := exists_ofInt_eq small
  rw [same, units, isNegative_ofMagnitude _ finite.le, magnitude_ofMagnitude _ finite.le, stands,
    Nat.cast_mul, ← Int.neg_mul, ← ite_mul, sign_natAbs]

/-- The number nearest to a whole number of fewer than 54 bits stands for it. -/
theorem isExactly_ofInt : (ofInt value).IsExactly value :=
  ⟨isFinite_ofInt (by omega), units_ofInt small⟩

end Whole

/-- The numbers nearest to two whole numbers are apart. -/
theorem ofInt_lt_ofInt {first second : Int} (small : first.natAbs < 2 ^ 53)
    (small' : second.natAbs < 2 ^ 53) (order : first < second) : ofInt first < ofInt second := by
  have finite : (ofInt first).isFinite = true := isFinite_ofInt (by omega)
  have finite' : (ofInt second).isFinite = true := isFinite_ofInt (by omega)
  refine ⟨isNaN_eq_false finite, isNaN_eq_false finite', ?_⟩
  rw [← Int.not_le, rank_le_rank_iff, units_ofInt small, units_ofInt small', Int.not_le]
  exact Int.mul_lt_mul_of_pos_right order intCast_unitsPerOne_pos

/-- The difference of two whole numbers is the number nearest to their difference. Equal numbers are
a case of their own in the proof, since their difference is a zero without a sign. -/
theorem ofInt_sub_ofInt {first second : Int} (small : first.natAbs < 2 ^ 53)
    (small' : second.natAbs < 2 ^ 53) : ofInt first - ofInt second = ofInt (first - second) := by
  have finite : (ofInt first).isFinite = true := isFinite_ofInt (by omega)
  have finite' : (ofInt second).isFinite = true := isFinite_ofInt (by omega)
  have number := isNaN_eq_false finite'
  have difference : (ofInt first).units + (-ofInt second).units =
      (first - second) * unitsPerOne := by
    rw [units_neg number, units_ofInt small, units_ofInt small']
    ring
  have sum : ofInt first - ofInt second = ofInt first + -ofInt second := rfl
  rw [sum, add_eq finite (isFinite_neg number finite'), difference]
  split_ifs with zero
  · have same : first = second := by
      have := (mul_eq_zero.mp zero).resolve_right intCast_unitsPerOne_pos.ne'
      omega
    have signs : (-ofInt second).isNegative = !(ofInt second).isNegative :=
      isNegative_ofMagnitude _ (magnitude_le number)
    have zero : ofInt 0 = ofMagnitude false 0 := by decide +kernel
    rw [same, signs, Bool.and_not_self, Int.sub_self, zero]
  · have sign : (first - second) * unitsPerOne < 0 ↔ first - second < 0 := by
      simpa only [Int.zero_mul] using Int.mul_lt_mul_right (c := 0) intCast_unitsPerOne_pos
    have ratio := nearestMagnitude_mul_right (first - second).natAbs Nat.one_pos unitsPerOne_pos
    rw [Nat.one_mul] at ratio
    rw [ofInt, ofRatio, ofRatio, Int.natAbs_mul, Int.natAbs_natCast, ratio,
      decide_eq_decide.mpr sign]

end ArgoQuery.Binary64
