import ArgoQuery.Binary64.Rounding
import Mathlib.Data.Nat.Log
import Mathlib.Tactic.Ring

/-!
# Rounding keeps the order

Of two ratios the greater one is not rounded to the smaller number. `nearestMagnitude_mono` has this
of the magnitudes and `ofInt_le_ofInt` of the numbers nearest to whole numbers. A number that comes
from rounding is never NaN.

A magnitude counts the bits that are dropped of a ratio and the 53 that are left. Where as many are
dropped of two ratios, those that are left are compared. Otherwise more are dropped of the greater
ratio, and the least that can be left of it counts no less than the most of the other.
-/

namespace ArgoQuery

/-- Rounding does not go below the quotient. -/
theorem div_le_roundRatio (numerator denominator : Nat) :
    numerator / denominator ≤ roundRatio numerator denominator := by
  simp only [roundRatio]
  split_ifs <;> omega

/-- Rounding goes no further than to the quotient and one. -/
theorem roundRatio_le_succ (numerator denominator : Nat) :
    roundRatio numerator denominator ≤ numerator / denominator + 1 := by
  simp only [roundRatio]
  split_ifs <;> omega

section Ratios

variable {numerator denominator numerator' denominator' : Nat}

/-- Of two ratios the greater one has the greater whole part. -/
theorem div_le_div_of_mul_le (positive : 0 < denominator) (positive' : 0 < denominator')
    (below : numerator * denominator' ≤ numerator' * denominator) :
    numerator / denominator ≤ numerator' / denominator' := by
  calc numerator / denominator
      = numerator * denominator' / (denominator * denominator') :=
        (Nat.mul_div_mul_right _ _ positive').symm
    _ ≤ numerator' * denominator / (denominator * denominator') := Nat.div_le_div_right below
    _ = numerator' / denominator' := by
        rw [Nat.mul_comm numerator']
        exact Nat.mul_div_mul_left _ _ positive

/-- Of two ratios the greater one is not rounded to the smaller whole number.

If their whole parts agree, the fractions are in the order of the ratios, and both sides of one half
are decided alike. -/
theorem roundRatio_mono (positive : 0 < denominator) (positive' : 0 < denominator')
    (below : numerator * denominator' ≤ numerator' * denominator) :
    roundRatio numerator denominator ≤ roundRatio numerator' denominator' := by
  rcases Nat.lt_or_eq_of_le (div_le_div_of_mul_le positive positive' below) with apart | same
  · calc roundRatio numerator denominator
        ≤ numerator / denominator + 1 := roundRatio_le_succ ..
      _ ≤ numerator' / denominator' := apart
      _ ≤ roundRatio numerator' denominator' := div_le_roundRatio ..
  · have fractions :
        numerator % denominator * denominator' ≤ numerator' % denominator' * denominator := by
      have parts : denominator * (numerator / denominator) * denominator' =
          denominator' * (numerator' / denominator') * denominator := by
        rw [same]
        ring
      have whole : numerator * denominator' =
          denominator * (numerator / denominator) * denominator' +
            numerator % denominator * denominator' := by
        rw [← Nat.add_mul, Nat.div_add_mod]
      have whole' : numerator' * denominator =
          denominator' * (numerator' / denominator') * denominator +
            numerator' % denominator' * denominator := by
        rw [← Nat.add_mul, Nat.div_add_mod]
      omega
    have doubled : 2 * (numerator % denominator) * denominator' ≤
        2 * (numerator' % denominator') * denominator := by
      rw [Nat.mul_assoc, Nat.mul_assoc]
      exact Nat.mul_le_mul_left 2 fractions
    have low (half : 2 * (numerator' % denominator') < denominator') :
        2 * (numerator % denominator) < denominator := by
      have less := Nat.lt_of_le_of_lt doubled (Nat.mul_lt_mul_of_pos_right half positive)
      rw [Nat.mul_comm denominator'] at less
      exact Nat.lt_of_mul_lt_mul_right less
    have high (half : denominator < 2 * (numerator % denominator)) :
        denominator' < 2 * (numerator' % denominator') := by
      have less := Nat.lt_of_lt_of_le (Nat.mul_lt_mul_of_pos_right half positive') doubled
      rw [Nat.mul_comm denominator] at less
      exact Nat.lt_of_mul_lt_mul_right less
    simp only [roundRatio, ← same]
    split_ifs <;> omega

end Ratios

namespace Binary64

/-- How many low bits of a ratio are dropped for 53 to be left. -/
def droppedBits (numerator denominator : Nat) : Nat := (numerator / denominator).log2 - 52

/-- The bits of a ratio that are left, rounded. -/
def significand (numerator denominator : Nat) : Nat :=
  roundRatio numerator (denominator * Nat.pow 2 (droppedBits numerator denominator))

/-- The nearest magnitude is the rounded significand behind the number of bits that had to be
dropped, and never more than infinity. -/
theorem nearestMagnitude_eq (numerator denominator : Nat) :
    nearestMagnitude numerator denominator =
      min infiniteMagnitude (droppedBits (numerator * unitsPerOne) denominator * Nat.pow 2 52 +
        significand (numerator * unitsPerOne) denominator) := rfl

/-- The nearest magnitude is no larger than infinity. -/
theorem nearestMagnitude_le (numerator denominator : Nat) :
    nearestMagnitude numerator denominator ≤ infiniteMagnitude := Nat.min_le_left ..

section Significand

variable {numerator denominator : Nat}

/-- No more than 53 bits are left, unless rounding carries. -/
theorem significand_le : significand numerator denominator ≤ Nat.pow 2 53 := by
  let dropped := droppedBits numerator denominator
  have small : numerator / denominator < 2 ^ (53 + dropped) := by
    refine Nat.lt_of_lt_of_le Nat.lt_log2_self (Nat.pow_le_pow_right Nat.two_pos ?_)
    simp only [dropped, droppedBits]
    omega
  have scale : 0 < Nat.pow 2 dropped := Nat.two_pow_pos dropped
  have quotient : numerator / (denominator * Nat.pow 2 dropped) < Nat.pow 2 53 := by
    rw [← Nat.div_div_eq_div_mul, Nat.div_lt_iff_lt_mul scale]
    exact small.trans_eq (Nat.pow_add ..)
  exact (roundRatio_le_succ ..).trans quotient

/-- If any bit is dropped then 53 are left. -/
theorem le_significand (dropping : 0 < droppedBits numerator denominator) :
    Nat.pow 2 52 ≤ significand numerator denominator := by
  let dropped := droppedBits numerator denominator
  have nonzero : numerator / denominator ≠ 0 := by
    intro zero
    simp [droppedBits, zero] at dropping
  have large : 2 ^ (52 + dropped) ≤ numerator / denominator := by
    refine Nat.le_trans (Nat.pow_le_pow_right Nat.two_pos ?_) (Nat.log2_self_le nonzero)
    simp only [dropped, droppedBits] at dropping ⊢
    omega
  have scale : 0 < Nat.pow 2 dropped := Nat.two_pow_pos dropped
  have quotient : Nat.pow 2 52 ≤ numerator / (denominator * Nat.pow 2 dropped) := by
    rw [← Nat.div_div_eq_div_mul, Nat.le_div_iff_mul_le scale]
    exact (Nat.pow_add ..).symm.trans_le large
  exact quotient.trans (div_le_roundRatio ..)

end Significand

section Order

variable {numerator denominator numerator' denominator' : Nat} (positive : 0 < denominator)
  (positive' : 0 < denominator') (below : numerator * denominator' ≤ numerator' * denominator)

include positive positive' below

/-- A larger ratio has no fewer bits to drop. -/
theorem droppedBits_mono :
    droppedBits numerator denominator ≤ droppedBits numerator' denominator' := by
  have quotients := div_le_div_of_mul_le positive positive' below
  refine Nat.sub_le_sub_right ?_ 52
  rw [Nat.log2_eq_log_two, Nat.log2_eq_log_two]
  exact Nat.log_mono_right quotients

/-- Of two ratios the greater one does not have the smaller bits.

Where as many bits are dropped, those that are left are compared. Otherwise the bits that are left
of the smaller ratio end where those of the greater one begin. -/
theorem bits_mono :
    droppedBits numerator denominator * Nat.pow 2 52 + significand numerator denominator ≤
      droppedBits numerator' denominator' * Nat.pow 2 52 +
        significand numerator' denominator' := by
  rcases (droppedBits_mono positive positive' below).lt_or_eq with apart | same
  · have upper : significand numerator denominator ≤ Nat.pow 2 53 := significand_le
    have lower : Nat.pow 2 52 ≤ significand numerator' denominator' :=
      le_significand (Nat.zero_lt_of_lt apart)
    have exponents := Nat.mul_le_mul_right (Nat.pow 2 52) (Nat.succ_le_of_lt apart)
    have doubled : Nat.pow 2 53 = 2 * Nat.pow 2 52 := rfl
    rw [Nat.succ_mul] at exponents
    omega
  · rw [significand, significand, same]
    refine Nat.add_le_add_left (roundRatio_mono ?_ ?_ ?_) _
    · exact Nat.mul_pos positive (Nat.two_pow_pos _)
    · exact Nat.mul_pos positive' (Nat.two_pow_pos _)
    · rw [← Nat.mul_assoc, ← Nat.mul_assoc]
      exact Nat.mul_le_mul_right _ below

/-- Of two ratios the greater one does not have the smaller nearest magnitude. -/
theorem nearestMagnitude_mono :
    nearestMagnitude numerator denominator ≤ nearestMagnitude numerator' denominator' := by
  have scaled : numerator * unitsPerOne * denominator' ≤
      numerator' * unitsPerOne * denominator := by
    rw [Nat.mul_right_comm, Nat.mul_right_comm numerator']
    exact Nat.mul_le_mul_right unitsPerOne below
  rw [nearestMagnitude_eq, nearestMagnitude_eq]
  exact min_le_min_left _ (bits_mono positive positive' scaled)

end Order

section OfMagnitude

variable (negative : Bool) {magnitude : Nat} (small : magnitude ≤ infiniteMagnitude)

include small

/-- A signed magnitude has the magnitude. -/
@[simp]
theorem magnitude_ofMagnitude : (ofMagnitude negative magnitude).magnitude = magnitude := by
  have bound : magnitude ≤ 2047 * 2 ^ 52 := small
  cases negative <;> simp [ofMagnitude, Binary64.magnitude] <;> omega

/-- A signed magnitude has the sign. -/
@[simp]
theorem isNegative_ofMagnitude : (ofMagnitude negative magnitude).isNegative = negative := by
  have bound : magnitude ≤ 2047 * 2 ^ 52 := small
  cases negative <;> simp [ofMagnitude, isNegative] <;> omega

/-- A magnitude up to infinity makes a number. -/
@[simp]
theorem isNaN_ofMagnitude : (ofMagnitude negative magnitude).isNaN = false := by
  rw [isNaN, magnitude_ofMagnitude negative small]
  exact decide_eq_false (Nat.not_lt.mpr small)

/-- The rank of a signed magnitude is the magnitude with the sign. -/
@[simp]
theorem rank_ofMagnitude : (ofMagnitude negative magnitude).rank =
    if negative then -(magnitude : Int) else magnitude := by
  rw [rank, magnitude_ofMagnitude negative small, isNegative_ofMagnitude negative small]

end OfMagnitude

/-- The number nearest to a whole number of 64 bits is finite. -/
theorem isFinite_ofInt {value : Int} (small : value.natAbs ≤ 2 ^ 64) :
    (ofInt value).isFinite = true := by
  have below : nearestMagnitude value.natAbs 1 ≤ nearestMagnitude (2 ^ 64) 1 :=
    nearestMagnitude_mono Nat.one_pos Nat.one_pos (by omega)
  have largest : nearestMagnitude (2 ^ 64) 1 < infiniteMagnitude := by decide +kernel
  rw [ofInt, ofRatio, isFinite, magnitude_ofMagnitude _ (nearestMagnitude_le ..)]
  exact decide_eq_true (Nat.lt_of_le_of_lt below largest)

/-- The numbers nearest to whole numbers are in the order of these. -/
theorem ofInt_le_ofInt {first second : Int} (below : first ≤ second) :
    ofInt first ≤ ofInt second := by
  have small (value : Int) : nearestMagnitude value.natAbs 1 ≤ infiniteMagnitude :=
    nearestMagnitude_le ..
  have larger {value value' : Int} (absolute : value.natAbs ≤ value'.natAbs) :
      (nearestMagnitude value.natAbs 1 : Int) ≤ nearestMagnitude value'.natAbs 1 :=
    Int.ofNat_le.mpr (nearestMagnitude_mono Nat.one_pos Nat.one_pos (by omega))
  refine le_iff.mpr ⟨isNaN_ofMagnitude _ (small first), isNaN_ofMagnitude _ (small second), ?_⟩
  rw [ofInt, ofRatio, rank_ofMagnitude _ (small first), ofInt, ofRatio,
    rank_ofMagnitude _ (small second)]
  by_cases negative : first < 0
  · by_cases negative' : second < 0
    · have reversed := larger (by omega : second.natAbs ≤ first.natAbs)
      simp only [negative, negative', decide_true, if_true]
      omega
    · simp only [negative, negative', decide_true, decide_false, if_true, Bool.false_eq_true,
        if_false]
      omega
  · have negative' : ¬ second < 0 := by omega
    have kept := larger (by omega : first.natAbs ≤ second.natAbs)
    simp only [negative, negative', decide_false, Bool.false_eq_true, if_false]
    omega

end Binary64

end ArgoQuery
