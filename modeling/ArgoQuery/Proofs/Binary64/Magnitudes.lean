import ArgoQuery.Binary64
import Mathlib.Order.Monotone.Basic
import Mathlib.Tactic.Ring

/-!
# Magnitudes and what they stand for

A magnitude stands for a multiple of its gap, the distance to what the next magnitude stands for
(`unitsOfMagnitude_succ`). So greater magnitudes stand for more (`unitsOfMagnitude_strictMono`). A
gap is a power of two that does not shrink, and below `2 ^ 53` times one it divides one: a magnitude
that has a fraction stands for less (`lt_of_not_whole`). A number is known from its sign and its
magnitude, and unless it is zero from what it stands for (`eq_of_units_eq`).
-/

namespace ArgoQuery.Binary64

/-- How much more the next magnitude stands for. -/
def gap (magnitude : Nat) : Nat := 2 ^ (magnitude / 2 ^ 52 - 1)

/-- How many gaps a magnitude stands for. -/
def coefficient (magnitude : Nat) : Nat :=
  if magnitude / 2 ^ 52 = 0 then magnitude % 2 ^ 52 else 2 ^ 52 + magnitude % 2 ^ 52

/-- One has units. The exponent is generalized before anything is said of the power of two, here and
below, lest the power is evaluated. -/
theorem unitsPerOne_pos : 0 < unitsPerOne := by
  unfold unitsPerOne
  generalize 1074 = exponent
  exact Nat.two_pow_pos exponent

/-- One has units, as an integer. -/
theorem intCast_unitsPerOne_pos : (0 : Int) < unitsPerOne := Int.natCast_pos.mpr unitsPerOne_pos

/-- One as a number of halves of a unit. -/
theorem two_pow_succ_eq : Nat.pow 2 1075 = 2 * unitsPerOne := by
  have exponents : 1075 = 1074 + 1 := rfl
  unfold unitsPerOne
  rewrite [exponents]
  generalize 1074 = exponent
  exact Nat.pow_succ'

/-- One divides each power of two that is not smaller. -/
theorem unitsPerOne_dvd_two_pow {exponent : Nat} (large : 1074 ≤ exponent) :
    unitsPerOne ∣ 2 ^ exponent := by
  unfold unitsPerOne
  revert large
  generalize 1074 = least
  exact fun large => Nat.pow_dvd_pow 2 large

/-- One is twice a multiple of each smaller power of two. -/
theorem unitsPerOne_eq_two_mul {exponent : Nat} (small : exponent < 1074) :
    ∃ factor, unitsPerOne = 2 * (factor * 2 ^ exponent) := by
  unfold unitsPerOne
  revert small
  generalize 1074 = greatest
  intro small
  have exponents : greatest - 1 - exponent + exponent + 1 = greatest := by omega
  refine ⟨2 ^ (greatest - 1 - exponent), ?_⟩
  rw [← Nat.pow_add, ← Nat.pow_succ', Nat.succ_eq_add_one, exponents, Nat.pow_eq]

/-- Neighbouring magnitudes are apart. -/
theorem gap_pos (magnitude : Nat) : 0 < gap magnitude := Nat.two_pow_pos _

/-- The units of a magnitude are its coefficient, counted in its gaps. -/
theorem unitsOfMagnitude_eq (magnitude : Nat) :
    unitsOfMagnitude magnitude = coefficient magnitude * gap magnitude := by
  have parts : unitsOfMagnitude magnitude =
      if magnitude / 2 ^ 52 = 0 then magnitude % 2 ^ 52
      else (2 ^ 52 + magnitude % 2 ^ 52) * 2 ^ (magnitude / 2 ^ 52 - 1) := rfl
  rw [parts, coefficient, gap]
  split_ifs with subnormal
  · rw [subnormal, Nat.zero_sub, Nat.pow_zero, Nat.mul_one]
  · rfl

/-- The next magnitude stands for one gap more. If the fraction overflows, the coefficient is halved
and the gap doubled, unless the magnitude was the last one without a leading bit. -/
theorem unitsOfMagnitude_succ (magnitude : Nat) :
    unitsOfMagnitude (magnitude + 1) = unitsOfMagnitude magnitude + gap magnitude := by
  rw [unitsOfMagnitude_eq, unitsOfMagnitude_eq, ← Nat.succ_mul]
  by_cases overflow : magnitude % 2 ^ 52 = 2 ^ 52 - 1
  · have fraction : (magnitude + 1) % 2 ^ 52 = 0 := by omega
    have exponent : (magnitude + 1) / 2 ^ 52 = magnitude / 2 ^ 52 + 1 := by omega
    rw [coefficient, coefficient, gap, gap, fraction, exponent, overflow, if_neg (by omega)]
    cases magnitude / 2 ^ 52 with
    | zero => norm_num
    | succ previous =>
      rw [if_neg (by omega), Nat.add_sub_cancel, Nat.add_sub_cancel, Nat.pow_succ]
      ring
  · have fraction : (magnitude + 1) % 2 ^ 52 = magnitude % 2 ^ 52 + 1 := by omega
    have exponent : (magnitude + 1) / 2 ^ 52 = magnitude / 2 ^ 52 := by omega
    rw [coefficient, coefficient, gap, gap, fraction, exponent]
    split_ifs <;> rfl

/-- A larger magnitude has more units. Neighbours are a gap apart, so it is enough to look at them.
-/
theorem unitsOfMagnitude_strictMono : StrictMono unitsOfMagnitude := by
  refine strictMono_nat_of_lt_succ fun magnitude => ?_
  rw [unitsOfMagnitude_succ]
  exact Nat.lt_add_of_pos_right (gap_pos magnitude)

/-- The gaps grow with the magnitudes. -/
theorem gap_mono {magnitude later : Nat} (order : magnitude ≤ later) :
    gap magnitude ≤ gap later := by
  refine Nat.pow_le_pow_right Nat.two_pos (Nat.sub_le_sub_right ?_ 1)
  exact Nat.div_le_div_right order

/-- The previous magnitude stands for at most one gap less. -/
theorem le_unitsOfMagnitude_pred (magnitude : Nat) :
    unitsOfMagnitude magnitude ≤ unitsOfMagnitude (magnitude - 1) + gap magnitude := by
  cases magnitude with
  | zero => exact Nat.le_add_right ..
  | succ previous =>
    rw [unitsOfMagnitude_succ, Nat.add_sub_cancel]
    exact Nat.add_le_add_left (gap_mono (Nat.le_succ _)) _

/-- Either what a magnitude stands for is whole, or one is a multiple of twice its gap. -/
theorem whole_or_gap_dvd (magnitude : Nat) :
    unitsOfMagnitude magnitude % unitsPerOne = 0 ∨
      ∃ factor, unitsPerOne = 2 * (factor * gap magnitude) := by
  by_cases large : 1074 ≤ magnitude / 2 ^ 52 - 1
  · left
    rw [unitsOfMagnitude_eq]
    exact Nat.mod_eq_zero_of_dvd ((unitsPerOne_dvd_two_pow large).mul_left _)
  · right
    exact unitsPerOne_eq_two_mul (Nat.not_le.mp large)

/-- What has a fraction is small. -/
theorem lt_of_not_whole {magnitude : Nat}
    (fraction : unitsOfMagnitude magnitude % unitsPerOne ≠ 0) :
    unitsOfMagnitude magnitude < 2 ^ 52 * unitsPerOne := by
  obtain ⟨factor, one⟩ := (whole_or_gap_dvd magnitude).resolve_left fraction
  have positive : 0 < factor := by
    rcases Nat.eq_zero_or_pos factor with zero | positive
    · rw [zero, Nat.zero_mul] at one
      exact absurd one unitsPerOne_pos.ne'
    · exact positive
  have below : coefficient magnitude < 2 ^ 53 := by
    rw [coefficient]
    split_ifs <;> omega
  calc unitsOfMagnitude magnitude
      = coefficient magnitude * gap magnitude := unitsOfMagnitude_eq magnitude
    _ < 2 ^ 53 * gap magnitude := Nat.mul_lt_mul_of_pos_right below (gap_pos magnitude)
    _ ≤ 2 ^ 53 * (factor * gap magnitude) :=
        Nat.mul_le_mul_left _ (Nat.le_mul_of_pos_left _ positive)
    _ = 2 ^ 52 * unitsPerOne := by
        rw [one]
        ring

/-- A finite number is not NaN. -/
theorem isNaN_eq_false {x : Binary64} (finite : x.isFinite = true) : x.isNaN = false := by
  rw [isFinite, decide_eq_true_eq] at finite
  exact decide_eq_false (Nat.not_lt.mpr finite.le)

/-- A finite number is not infinite. -/
theorem isInfinite_eq_false {x : Binary64} (finite : x.isFinite = true) : x.isInfinite = false := by
  rw [isFinite, decide_eq_true_eq] at finite
  exact decide_eq_false finite.ne

/-- The units of a number without its sign are those of its magnitude. -/
theorem natAbs_units (x : Binary64) : x.units.natAbs = unitsOfMagnitude x.magnitude := by
  rw [units]
  split_ifs
  · rw [Int.natAbs_neg, Int.natAbs_natCast]
  · exact Int.natAbs_natCast _

/-- A finite number is whole if its units make up whole ones. -/
theorem isWhole_iff {x : Binary64} (finite : x.isFinite = true) :
    x.isWhole = true ↔ (unitsPerOne : Int) ∣ x.units := by
  rw [isWhole, finite, Bool.true_and, decide_eq_true_eq, Int.natCast_dvd, natAbs_units]
  exact Nat.dvd_iff_mod_eq_zero.symm

/-- A number that is not zero is negative if its units are. -/
theorem isNegative_iff {x : Binary64} (nonzero : x.units ≠ 0) :
    x.isNegative = true ↔ x.units < 0 := by
  have size := natAbs_units x
  rw [units] at size nonzero ⊢
  split_ifs at size nonzero ⊢ with negative
  · exact iff_of_true negative (by omega)
  · exact iff_of_false negative (by omega)

/-- A number is known from its sign and its magnitude. -/
theorem eq_of_sign_of_magnitude {x y : Binary64} (sign : x.isNegative = y.isNegative)
    (magnitude : x.magnitude = y.magnitude) : x = y := by
  rw [isNegative, isNegative, decide_eq_decide] at sign
  rw [Binary64.magnitude, Binary64.magnitude] at magnitude
  have bits := UInt64.toNat_lt x.bits
  have bits' := UInt64.toNat_lt y.bits
  have same : x.bits.toNat = y.bits.toNat := by
    norm_num at sign magnitude
    omega
  cases x
  cases y
  exact congrArg Binary64.mk (UInt64.toNat_inj.mp same)

/-- A number other than zero is known from its units. -/
theorem eq_of_units_eq {x y : Binary64} (same : x.units = y.units) (nonzero : x.units ≠ 0) :
    x = y := by
  refine eq_of_sign_of_magnitude ?_ (unitsOfMagnitude_strictMono.injective ?_)
  · rw [Bool.eq_iff_iff, isNegative_iff nonzero, isNegative_iff (same ▸ nonzero), same]
  · rw [← natAbs_units, ← natAbs_units, same]

/-- A number with a fraction is small. -/
theorem natAbs_units_lt {x : Binary64} (finite : x.isFinite = true) (fraction : x.isWhole = false) :
    x.units.natAbs < 2 ^ 52 * unitsPerOne := by
  rw [natAbs_units]
  refine lt_of_not_whole fun whole => ?_
  rw [isWhole, finite, whole] at fraction
  cases fraction

end ArgoQuery.Binary64
