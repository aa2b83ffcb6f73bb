import ArgoQuery.Proofs.Binary64.Magnitudes
import ArgoQuery.Proofs.Binary64.RoundingOrder

/-!
# Rounded sums stay on their side of a number

A number is rounded to itself (`nearestMagnitude_unitsOfMagnitude`), and rounding keeps the order.
So a rounded result lies on the same side of every number as the exact one. This holds of ratios
(`le_ofRatio`, `ofRatio_le`), and from there of sums and differences (`le_add`, `add_le`, `le_sub`,
`sub_le`). Exact results are counted in units. A sum of finite numbers may be infinite.
-/

namespace ArgoQuery

/-- A ratio that is whole is not rounded. -/
theorem roundRatio_mul (whole : Nat) {denominator : Nat} (positive : 0 < denominator) :
    roundRatio (whole * denominator) denominator = whole := by
  simp only [roundRatio, Nat.mul_mod_left, Nat.mul_zero, if_pos positive]
  exact Nat.mul_div_cancel _ positive

namespace Binary64

/-- A coefficient takes no more than 53 bits. -/
theorem coefficient_lt (magnitude : Nat) : coefficient magnitude < 2 ^ 53 := by
  rw [coefficient]
  split_ifs <;> omega

/-- What a magnitude stands for has 53 bits above its gap, or fewer and a gap of one. -/
theorem log2_unitsOfMagnitude (magnitude : Nat) :
    (unitsOfMagnitude magnitude).log2 - 52 = magnitude / 2 ^ 52 - 1 := by
  by_cases subnormal : magnitude / 2 ^ 52 = 0
  · have small : unitsOfMagnitude magnitude < 2 ^ 52 := by
      rw [unitsOfMagnitude_eq, coefficient, gap, if_pos subnormal, subnormal]
      omega
    rcases Nat.eq_zero_or_pos (unitsOfMagnitude magnitude) with zero | positive
    · rw [zero, subnormal]
      rfl
    · have := (Nat.log2_lt positive.ne').mpr small
      omega
  · have upper := coefficient_lt magnitude
    have lower : 2 ^ 52 ≤ coefficient magnitude := by
      rw [coefficient, if_neg subnormal]
      exact Nat.le_add_right ..
    have log : (unitsOfMagnitude magnitude).log2 = 52 + (magnitude / 2 ^ 52 - 1) := by
      have nonzero : unitsOfMagnitude magnitude ≠ 0 := by
        rw [unitsOfMagnitude_eq]
        exact (Nat.mul_pos (by omega) (gap_pos magnitude)).ne'
      rw [Nat.log2_eq_iff nonzero, unitsOfMagnitude_eq, gap, Nat.add_right_comm, Nat.pow_add,
        Nat.pow_add]
      exact ⟨Nat.mul_le_mul_right _ lower,
        Nat.mul_lt_mul_of_pos_right upper (Nat.two_pow_pos _)⟩
    omega

/-- Rounding what a magnitude stands for gives the magnitude. -/
theorem nearestMagnitude_unitsOfMagnitude {magnitude : Nat}
    (small : magnitude ≤ infiniteMagnitude) :
    nearestMagnitude (unitsOfMagnitude magnitude) unitsPerOne = magnitude := by
  have dropped : droppedBits (unitsOfMagnitude magnitude * unitsPerOne) unitsPerOne =
      magnitude / 2 ^ 52 - 1 := by
    rw [droppedBits, Nat.mul_div_cancel _ unitsPerOne_pos, log2_unitsOfMagnitude]
  have left : significand (unitsOfMagnitude magnitude * unitsPerOne) unitsPerOne =
      coefficient magnitude := by
    have scale : unitsOfMagnitude magnitude * unitsPerOne =
        coefficient magnitude * (unitsPerOne * Nat.pow 2 (magnitude / 2 ^ 52 - 1)) := by
      rw [unitsOfMagnitude_eq, gap, Nat.pow_eq, Nat.mul_assoc, Nat.mul_comm unitsPerOne]
    rw [significand, dropped, scale]
    exact roundRatio_mul _ (Nat.mul_pos unitsPerOne_pos (Nat.two_pow_pos _))
  have bits : (magnitude / 2 ^ 52 - 1) * Nat.pow 2 52 + coefficient magnitude = magnitude := by
    rw [coefficient, Nat.pow_eq]
    split_ifs <;> omega
  rw [nearestMagnitude_eq, dropped, left, bits]
  exact Nat.min_eq_right small

/-- A number has no larger magnitude than an infinity. -/
theorem magnitude_le {x : Binary64} (number : x.isNaN = false) :
    x.magnitude ≤ infiniteMagnitude :=
  Nat.not_lt.mp (of_decide_eq_false number)

/-- A number that is not infinite is finite. -/
theorem isFinite_of_isInfinite {x : Binary64} (number : x.isNaN = false)
    (bounded : x.isInfinite = false) : x.isFinite = true :=
  decide_eq_true (Nat.lt_of_le_of_ne (magnitude_le number) (of_decide_eq_false bounded))

/-- A rank is the magnitude or its opposite. -/
theorem rank_bounds (x : Binary64) : -(x.magnitude : Int) ≤ x.rank ∧ x.rank ≤ x.magnitude := by
  rw [rank]
  split_ifs <;> omega

/-- Only the magnitude zero has no units. -/
theorem unitsOfMagnitude_eq_zero_iff {magnitude : Nat} :
    unitsOfMagnitude magnitude = 0 ↔ magnitude = 0 :=
  unitsOfMagnitude_strictMono.injective.eq_iff' rfl

/-- The order of ranks is the order of units. -/
theorem rank_le_rank_iff (x y : Binary64) : x.rank ≤ y.rank ↔ x.units ≤ y.units := by
  have zero : unitsOfMagnitude x.magnitude = 0 ↔ x.magnitude = 0 := unitsOfMagnitude_eq_zero_iff
  have zero' : unitsOfMagnitude y.magnitude = 0 ↔ y.magnitude = 0 := unitsOfMagnitude_eq_zero_iff
  rw [rank, rank, units, units]
  cases x.isNegative <;> cases y.isNegative <;>
    simp only [if_true, if_false, Bool.false_eq_true]
  case false.false =>
    rw [Int.ofNat_le, Int.ofNat_le, unitsOfMagnitude_strictMono.le_iff_le]
  case true.true =>
    rw [Int.neg_le_neg_iff, Int.neg_le_neg_iff, Int.ofNat_le, Int.ofNat_le,
      unitsOfMagnitude_strictMono.le_iff_le]
  all_goals omega

/-- Numbers are in the order of their units. -/
theorem le_iff_units_le {x y : Binary64} (number : x.isNaN = false) (number' : y.isNaN = false) :
    x ≤ y ↔ x.units ≤ y.units := by
  rw [le_iff, rank_le_rank_iff]
  simp only [number, number', true_and]

/-- The order of numbers is transitive. -/
theorem le_trans {x y z : Binary64} (first : x ≤ y) (second : y ≤ z) : x ≤ z := by
  obtain ⟨number, -, ranks⟩ := le_iff.mp first
  obtain ⟨-, number', ranks'⟩ := le_iff.mp second
  exact le_iff.mpr ⟨number, number', ranks.trans ranks'⟩

/-- The opposite of a signed magnitude is the magnitude with the other sign. -/
theorem neg_ofMagnitude (negative : Bool) {magnitude : Nat}
    (small : magnitude ≤ infiniteMagnitude) :
    -ofMagnitude negative magnitude = ofMagnitude (!negative) magnitude := by
  have same : -ofMagnitude negative magnitude =
      ofMagnitude (!(ofMagnitude negative magnitude).isNegative)
        (ofMagnitude negative magnitude).magnitude := rfl
  rw [same, isNegative_ofMagnitude _ small, magnitude_ofMagnitude _ small]

section Neg

variable {x : Binary64} (number : x.isNaN = false)

include number

/-- The opposite of a number is a number. -/
@[simp]
theorem isNaN_neg : (-x).isNaN = false := isNaN_ofMagnitude _ (magnitude_le number)

/-- The opposite of a finite number is finite. -/
@[simp]
theorem isFinite_neg (finite : x.isFinite = true) : (-x).isFinite = true := by
  have magnitude : (-x).magnitude = x.magnitude := magnitude_ofMagnitude _ (magnitude_le number)
  rw [isFinite, magnitude]
  exact finite

/-- The opposite of a number has the opposite units. -/
@[simp]
theorem units_neg : (-x).units = -x.units := by
  have magnitude : (-x).magnitude = x.magnitude := magnitude_ofMagnitude _ (magnitude_le number)
  have sign : (-x).isNegative = !x.isNegative := isNegative_ofMagnitude _ (magnitude_le number)
  rw [units, units, magnitude, sign]
  cases x.isNegative <;> simp

end Neg

/-- Changing signs turns the order of numbers round. -/
theorem neg_le_neg_iff {x y : Binary64} (number : x.isNaN = false) (number' : y.isNaN = false) :
    -y ≤ -x ↔ x ≤ y := by
  rw [le_iff_units_le (isNaN_neg number') (isNaN_neg number), le_iff_units_le number number']
  simp [number, number']

section Within

variable {x bound : Binary64} (finite : bound.isFinite = true)
  (within : x.isWithin (-bound) bound = true)

include finite within

/-- A number that is no further from zero than a bound has its units between those of the bound. -/
theorem units_le_of_isWithin : -bound.units ≤ x.units ∧ x.units ≤ bound.units := by
  have defined := isNaN_eq_false finite
  rw [isWithin, Bool.and_eq_true, decide_eq_true_eq, decide_eq_true_eq] at within
  obtain ⟨above, below⟩ := within
  have number : x.isNaN = false := (le_iff.mp below).1
  have least := (le_iff_units_le (isNaN_neg defined) number).mp above
  rw [units_neg defined] at least
  exact ⟨least, (le_iff_units_le number defined).mp below⟩

/-- A number that is no further from zero than a bound has no greater magnitude. -/
theorem magnitude_le_of_isWithin : x.magnitude ≤ bound.magnitude := by
  obtain ⟨least, most⟩ := units_le_of_isWithin finite within
  rw [← unitsOfMagnitude_strictMono.le_iff_le, ← natAbs_units, ← natAbs_units]
  omega

/-- A number within finite bounds is finite. -/
theorem isFinite_of_isWithin : x.isFinite = true :=
  decide_eq_true ((magnitude_le_of_isWithin finite within).trans_lt (of_decide_eq_true finite))

end Within

section Ratios

variable {x : Binary64} {negative : Bool} {numerator denominator : Nat}

/-- The number nearest to a ratio is a number. -/
theorem isNaN_ofRatio : (ofRatio negative numerator denominator).isNaN = false :=
  isNaN_ofMagnitude _ (nearestMagnitude_le ..)

/-- The number nearest to the opposite of a ratio is the opposite of the nearest one. -/
theorem neg_ofRatio :
    -ofRatio negative numerator denominator = ofRatio (!negative) numerator denominator :=
  neg_ofMagnitude _ (nearestMagnitude_le ..)

variable (number : x.isNaN = false) (positive : 0 < denominator)

include number positive

/-- A number that is at most a ratio is at most the ratio when this is rounded.

If the ratio is negative or zero and the number is not negative, both are zero. -/
theorem le_ofRatio
    (below : x.units * denominator ≤
      (if negative then -(numerator : Int) else numerator) * unitsPerOne) :
    x ≤ ofRatio negative numerator denominator := by
  have own := nearestMagnitude_unitsOfMagnitude (magnitude_le number)
  refine le_iff.mpr ⟨number, isNaN_ofRatio, ?_⟩
  rw [ofRatio, rank_ofMagnitude _ (nearestMagnitude_le ..), rank]
  rw [units] at below
  cases negative with
  | false =>
    cases sign : x.isNegative with
    | true =>
      simp only [if_true, Bool.false_eq_true, if_false]
      omega
    | false =>
      simp only [sign, Bool.false_eq_true, if_false] at below ⊢
      have order : unitsOfMagnitude x.magnitude * denominator ≤ numerator * unitsPerOne := by
        exact_mod_cast below
      have rounded := nearestMagnitude_mono unitsPerOne_pos positive order
      omega
  | true =>
    cases sign : x.isNegative with
    | true =>
      simp only [sign, if_true, Int.neg_mul, Int.neg_le_neg_iff] at below ⊢
      have order : numerator * unitsPerOne ≤ unitsOfMagnitude x.magnitude * denominator := by
        exact_mod_cast below
      have rounded := nearestMagnitude_mono positive unitsPerOne_pos order
      omega
    | false =>
      simp only [sign, if_true, Bool.false_eq_true, if_false, Int.neg_mul] at below ⊢
      have sum : unitsOfMagnitude x.magnitude * denominator + numerator * unitsPerOne = 0 := by
        have : ((unitsOfMagnitude x.magnitude * denominator + numerator * unitsPerOne : Nat) : Int)
            ≤ 0 := by
          push_cast
          omega
        omega
      have order : numerator * unitsPerOne ≤ unitsOfMagnitude x.magnitude * denominator := by
        omega
      have rounded := nearestMagnitude_mono positive unitsPerOne_pos order
      have zero : x.magnitude = 0 := by
        rw [← unitsOfMagnitude_eq_zero_iff]
        exact (Nat.mul_eq_zero.mp (by omega)).resolve_right positive.ne'
      omega

/-- A number that is at least a ratio is at least the ratio when this is rounded. -/
theorem ofRatio_le
    (above : (if negative then -(numerator : Int) else numerator) * unitsPerOne ≤
      x.units * denominator) :
    ofRatio negative numerator denominator ≤ x := by
  have reflected : -x ≤ -ofRatio negative numerator denominator := by
    rw [neg_ofRatio]
    refine le_ofRatio (isNaN_neg number) positive ?_
    rw [units_neg number, Int.neg_mul]
    cases negative <;>
      simp only [Bool.not_true, Bool.not_false, if_true, if_false, Bool.false_eq_true,
        Int.neg_mul] at above ⊢ <;> omega
  exact (neg_le_neg_iff isNaN_ofRatio number).mp reflected

end Ratios

/-- An integer is its absolute value with its sign. -/
@[simp]
theorem sign_natAbs (value : Int) :
    (if decide (value < 0) then -(value.natAbs : Int) else value.natAbs) = value := by
  simp only [decide_eq_true_eq]
  split_ifs <;> omega

/-- A signed zero is a number. -/
@[simp]
theorem isNaN_ofMagnitude_zero (negative : Bool) : (ofMagnitude negative 0).isNaN = false :=
  isNaN_ofMagnitude negative (Nat.zero_le _)

/-- A signed zero has no units. -/
@[simp]
theorem units_ofMagnitude_zero (negative : Bool) : (ofMagnitude negative 0).units = 0 := by
  cases negative <;> rfl

section Sums

variable {x y z : Binary64} (finite : x.isFinite = true) (finite' : y.isFinite = true)

include finite finite'

/-- A sum is the exact sum, rounded as a ratio to one; a sum of zero may be a zero of either
sign. -/
theorem add_eq : x + y =
    if x.units + y.units = 0 then ofMagnitude (x.isNegative && y.isNegative) 0
    else ofRatio (decide (x.units + y.units < 0)) (x.units + y.units).natAbs unitsPerOne := by
  have sum : x + y = add x y := rfl
  rw [sum, add, isNaN_eq_false finite, isNaN_eq_false finite', isInfinite_eq_false finite,
    isInfinite_eq_false finite']
  simp only [Bool.or_self, Bool.false_eq_true, if_false]

/-- The sum of two finite numbers is a number. -/
theorem isNaN_add : (x + y).isNaN = false := by
  rw [add_eq finite finite']
  split_ifs
  · exact isNaN_ofMagnitude_zero _
  · exact isNaN_ofRatio

/-- A number that is at most the exact sum is at most the sum. -/
theorem le_add (number : z.isNaN = false) (below : z.units ≤ x.units + y.units) : z ≤ x + y := by
  rw [add_eq finite finite']
  split_ifs with zero
  · rw [le_iff_units_le number (isNaN_ofMagnitude_zero _), units_ofMagnitude_zero, ← zero]
    exact below
  · refine le_ofRatio number unitsPerOne_pos ?_
    rw [sign_natAbs]
    exact Int.mul_le_mul_of_nonneg_right below (Int.natCast_nonneg _)

/-- A number that is at least the exact sum is at least the sum. -/
theorem add_le (number : z.isNaN = false) (above : x.units + y.units ≤ z.units) : x + y ≤ z := by
  rw [add_eq finite finite']
  split_ifs with zero
  · rw [le_iff_units_le (isNaN_ofMagnitude_zero _) number, units_ofMagnitude_zero, ← zero]
    exact above
  · refine ofRatio_le number unitsPerOne_pos ?_
    rw [sign_natAbs]
    exact Int.mul_le_mul_of_nonneg_right above (Int.natCast_nonneg _)

/-- A number whose units are at most a difference is at most the rounded difference, since rounding
keeps the order and the number itself is not rounded. -/
theorem le_sub (number : z.isNaN = false) (below : z.units ≤ x.units - y.units) : z ≤ x - y := by
  have defined := isNaN_eq_false finite'
  refine le_add finite (isFinite_neg defined finite') number ?_
  rw [units_neg defined]
  exact below

/-- A number whose units are at least a difference is at least the rounded difference. -/
theorem sub_le (number : z.isNaN = false) (above : x.units - y.units ≤ z.units) : x - y ≤ z := by
  have defined := isNaN_eq_false finite'
  refine add_le finite (isFinite_neg defined finite') number ?_
  rw [units_neg defined]
  exact above

end Sums

end Binary64

end ArgoQuery
