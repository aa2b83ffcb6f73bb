import ArgoQuery.Proofs.Binary64.RoundedSums

/-!
# The middle of two numbers lies between them

Half of a sum is rounded twice. Both times it stays on its side of a number, as long as twice that
number is finite (`HasDouble`). Main statements: `le_middle` and `middle_le`. What is at most both
of two numbers is at most their middle, and what is at least both is at least their middle. Nothing
is asked of the size of the two numbers: their sum may be infinite.
-/

namespace ArgoQuery.Binary64

section Halves

variable {x : Binary64} (number : x.isNaN = false)

include number

/-- Half of an infinity is the infinity of the same sign. -/
theorem half_of_isInfinite (infinite : x.isInfinite = true) :
    x / 2 = ofMagnitude x.isNegative infiniteMagnitude := by
  have quotient : x / 2 = divide x 2 := rfl
  have two : (2 : Binary64).isNaN = false ∧ (2 : Binary64).isInfinite = false ∧
      (2 : Binary64).isNegative = false := by decide +kernel
  rw [quotient, divide, number, infinite, two.1, two.2.1, two.2.2, Bool.bne_false]
  simp only [Bool.or_self, Bool.false_eq_true, if_false, if_true]

/-- Half of a finite number is the exact half, rounded. -/
theorem half_of_finite (finite : x.isInfinite = false) :
    x / 2 = ofRatio x.isNegative x.units.natAbs (2 * unitsPerOne) := by
  have quotient : x / 2 = divide x 2 := rfl
  have two : (2 : Binary64).isNaN = false ∧ (2 : Binary64).isInfinite = false ∧
      (2 : Binary64).isNegative = false ∧ (2 : Binary64).isZero = false ∧
      (2 : Binary64).units.natAbs = 2 * unitsPerOne := by decide +kernel
  obtain ⟨defined, bounded, positive, nonzero, units⟩ := two
  rw [quotient, divide, number, finite, defined, bounded, positive, nonzero, units, Bool.bne_false]
  simp only [Bool.or_self, Bool.false_eq_true, if_false]

/-- Half of a number is a number. -/
theorem isNaN_half : (x / 2).isNaN = false := by
  cases bounded : x.isInfinite with
  | true =>
    rw [half_of_isInfinite number bounded]
    exact isNaN_ofMagnitude _ (Nat.le_refl _)
  | false =>
    rw [half_of_finite number bounded]
    exact isNaN_ofRatio

/-- Halving does not notice the sign. -/
theorem half_neg : -x / 2 = -(x / 2) := by
  have small := magnitude_le number
  have sign : (-x).isNegative = !x.isNegative := isNegative_ofMagnitude _ small
  have magnitude : (-x).magnitude = x.magnitude := magnitude_ofMagnitude _ small
  have infinite : (-x).isInfinite = x.isInfinite := by rw [isInfinite, isInfinite, magnitude]
  cases bounded : x.isInfinite with
  | true =>
    rw [half_of_isInfinite (isNaN_neg number) (infinite.trans bounded),
      half_of_isInfinite number bounded, sign]
    exact (neg_ofMagnitude _ (Nat.le_refl _)).symm
  | false =>
    rw [half_of_finite (isNaN_neg number) (infinite.trans bounded), half_of_finite number bounded,
      neg_ofRatio, sign, units_neg number, Int.natAbs_neg]

end Halves

section HalvesInOrder

variable {x half double : Binary64} (number : x.isNaN = false) (number' : half.isNaN = false)
  (finite : double.isFinite = true) (units : double.units = 2 * half.units)

include number number' finite units

/-- A number whose double is at most another is at most half of that. -/
theorem le_half (below : double ≤ x) : half ≤ x / 2 := by
  cases bounded : x.isInfinite with
  | true =>
    have sign : x.isNegative = false := by
      obtain ⟨-, -, ranks⟩ := le_iff.mp below
      obtain ⟨least, -⟩ := rank_bounds double
      have size := of_decide_eq_true finite
      have size' := of_decide_eq_true bounded
      rw [← Bool.not_eq_true]
      intro negative
      have own : x.rank = -(x.magnitude : Int) := by rw [rank, if_pos negative]
      omega
    have small : infiniteMagnitude ≤ infiniteMagnitude := Nat.le_refl _
    rw [half_of_isInfinite number bounded, sign]
    refine le_iff.mpr ⟨number', isNaN_ofMagnitude _ small, ?_⟩
    rw [rank_ofMagnitude _ small]
    have most := (rank_bounds half).2
    have size := magnitude_le number'
    simp only [Bool.false_eq_true, if_false]
    omega
  | false =>
    have order := (le_iff_units_le (isNaN_eq_false finite) number).mp below
    have scale : 0 < 2 * unitsPerOne := Nat.mul_pos Nat.two_pos unitsPerOne_pos
    have size : (if x.isNegative then -(x.units.natAbs : Int) else x.units.natAbs) = x.units := by
      rw [natAbs_units, Binary64.units]
    rw [half_of_finite number bounded]
    refine le_ofRatio number' scale ?_
    rw [size]
    calc half.units * ((2 * unitsPerOne : Nat) : Int)
        = double.units * unitsPerOne := by
          rw [units]
          push_cast
          ring
      _ ≤ x.units * unitsPerOne := Int.mul_le_mul_of_nonneg_right order (Int.natCast_nonneg _)

/-- A number whose double is at least another is at least half of that. -/
theorem half_le (above : x ≤ double) : x / 2 ≤ half := by
  have defined := isNaN_eq_false finite
  have reflected : -half ≤ -x / 2 := by
    refine le_half (isNaN_neg number) (isNaN_neg number') (isFinite_neg defined finite) ?_
      ((neg_le_neg_iff number defined).mpr above)
    rw [units_neg defined, units_neg number', units, Int.mul_neg]
  rw [half_neg number] at reflected
  exact (neg_le_neg_iff (isNaN_half number) number').mp reflected

end HalvesInOrder

/-- Whether a number is finite and twice the number is too. -/
def HasDouble (x : Binary64) : Prop :=
  x.isFinite = true ∧ ∃ double : Binary64, double.isFinite = true ∧ double.units = 2 * x.units

/-- Twice what a magnitude stands for is what a magnitude stands for: the next exponent has the same
fraction, and without a leading bit the fraction is doubled. -/
theorem unitsOfMagnitude_double (magnitude : Nat) :
    ∃ double ≤ magnitude + 2 ^ 52, unitsOfMagnitude double = 2 * unitsOfMagnitude magnitude := by
  by_cases subnormal : magnitude / 2 ^ 52 = 0
  · have gaps : gap magnitude = 1 ∧ gap (2 * magnitude) = 1 := by
      have exponent : magnitude / 2 ^ 52 - 1 = 0 := by omega
      have exponent' : 2 * magnitude / 2 ^ 52 - 1 = 0 := by omega
      rw [gap, gap, exponent, exponent']
      exact ⟨rfl, rfl⟩
    refine ⟨2 * magnitude, by omega, ?_⟩
    rw [unitsOfMagnitude_eq, unitsOfMagnitude_eq, gaps.1, gaps.2, coefficient, coefficient,
      if_pos subnormal]
    split_ifs <;> omega
  · refine ⟨magnitude + 2 ^ 52, Nat.le_refl _, ?_⟩
    have exponent : (magnitude + 2 ^ 52) / 2 ^ 52 = magnitude / 2 ^ 52 - 1 + 1 + 1 := by omega
    have fraction : (magnitude + 2 ^ 52) % 2 ^ 52 = magnitude % 2 ^ 52 := by omega
    rw [unitsOfMagnitude_eq, unitsOfMagnitude_eq, coefficient, coefficient, gap, gap, fraction,
      exponent, if_neg (Nat.succ_ne_zero _), if_neg subnormal, Nat.add_sub_cancel, Nat.pow_succ]
    ring

/-- Twice a number is finite if the exponent after its own is one of a finite number. -/
theorem HasDouble.of_magnitude {x : Binary64} (small : x.magnitude + 2 ^ 52 < infiniteMagnitude) :
    x.HasDouble := by
  obtain ⟨magnitude, bound, units⟩ := unitsOfMagnitude_double x.magnitude
  have finite : magnitude < infiniteMagnitude := by omega
  refine ⟨decide_eq_true (by omega), ofMagnitude x.isNegative magnitude, ?_, ?_⟩
  · rw [isFinite, magnitude_ofMagnitude _ finite.le]
    exact decide_eq_true finite
  · rw [Binary64.units, Binary64.units, magnitude_ofMagnitude _ finite.le,
      isNegative_ofMagnitude _ finite.le, units]
    cases x.isNegative <;> simp

/-- Twice a number is finite if a bound of its absolute value is small enough for that. -/
theorem HasDouble.of_isWithin {x bound : Binary64}
    (small : bound.magnitude + 2 ^ 52 < infiniteMagnitude)
    (within : x.isWithin (-bound) bound = true) : x.HasDouble := by
  have finite : bound.isFinite = true := decide_eq_true (by omega)
  have size := magnitude_le_of_isWithin finite within
  exact .of_magnitude (by omega)

section Middle

variable {x y bound : Binary64} (finite : x.isFinite = true) (finite' : y.isFinite = true)
  (double : bound.HasDouble)

include finite finite' double

/-- What is at most two numbers is at most their middle. -/
theorem le_middle (below : bound ≤ x) (below' : bound ≤ y) : bound ≤ (x + y) / 2 := by
  obtain ⟨itself, double, bounded, units⟩ := double
  have number := isNaN_eq_false itself
  have first := (le_iff_units_le number (isNaN_eq_false finite)).mp below
  have second := (le_iff_units_le number (isNaN_eq_false finite')).mp below'
  refine le_half (isNaN_add finite finite') number bounded units ?_
  exact le_add finite finite' (isNaN_eq_false bounded) (by omega)

/-- What is at least two numbers is at least their middle. -/
theorem middle_le (above : x ≤ bound) (above' : y ≤ bound) : (x + y) / 2 ≤ bound := by
  obtain ⟨itself, double, bounded, units⟩ := double
  have number := isNaN_eq_false itself
  have first := (le_iff_units_le (isNaN_eq_false finite) number).mp above
  have second := (le_iff_units_le (isNaN_eq_false finite') number).mp above'
  refine half_le (isNaN_add finite finite') number bounded units ?_
  exact add_le finite finite' (isNaN_eq_false bounded) (by omega)

end Middle

end ArgoQuery.Binary64
