import ArgoQuery.Proofs.Binary64.PlainText
import ArgoQuery.Table.Value

/-!
# The keys of numbers

Integers and finite floating point numbers have the same key exactly if they are the same number or
lie together at or beyond one end of the range of 64 bits (`key?_eq_iff`). A number without a
fraction is written as an integer, after it is clamped to that range, and clamping is what loses the
difference: nothing is promised of identifiers outside the range. A number with a fraction is far
inside the range and is written in the plain form, which loses nothing.
-/

namespace ArgoQuery

/-- The number that an integer or a finite floating point number is, in units of `2 ^ -1074`. -/
def Value.units? : Value → Option Int
  | .int value => some (value.toInt * Binary64.unitsPerOne)
  | .float value => if value.isFinite then some value.units else none
  | .null | .bool _ | .text _ => none

namespace Binary64

/-- The whole part of a number without a fraction is the number, clamped to 64 bits. -/
theorem toInt64_of_whole {x : Binary64} {whole : Int} (finite : x.isFinite = true)
    (units : x.units = whole * unitsPerOne) :
    x.toInt64 = max toInt64.least (min toInt64.greatest whole) := by
  rw [toInt64, isNaN_eq_false finite, isInfinite_eq_false finite, units,
    Int.mul_tdiv_cancel _ intCast_unitsPerOne_pos.ne']
  rfl

end Binary64

namespace Value

open Binary64

/-- The key of a number without a fraction. -/
theorem key?_of_whole {value : Value} {whole : Int}
    (number : value.units? = some (whole * unitsPerOne)) :
    value.key? = some (decimalText (max toInt64.least (min toInt64.greatest whole))) := by
  cases value with
  | null | bool | text => cases number
  | int value =>
    have same : value.toInt = whole :=
      Int.eq_of_mul_eq_mul_right intCast_unitsPerOne_pos.ne' (Option.some.inj number)
    have least : toInt64.least ≤ value.toInt := Int64.le_toInt value
    have greatest : value.toInt ≤ toInt64.greatest := Int.le_of_lt_add_one (Int64.toInt_lt value)
    rw [← same, key?, Int.min_eq_right greatest, Int.max_eq_right least]
  | float value =>
    rw [units?] at number
    split_ifs at number with finite
    have units := Option.some.inj number
    have noFraction : value.isWhole = true := by
      rw [isWhole_iff finite, units]
      exact Int.dvd_mul_left ..
    rw [key?, noFraction, if_pos rfl, toInt64_of_whole finite units]

/-- A number with a fraction is a floating point number in the plain form. -/
theorem key?_of_fraction {value : Value} {units : Int} (number : value.units? = some units)
    (fraction : ¬ (unitsPerOne : Int) ∣ units) :
    ∃ x : Binary64, x.isFinite = true ∧ x.isWhole = false ∧ x.units = units ∧
      value.key? = some x.plain := by
  cases value with
  | null | bool | text => cases number
  | int value =>
    rw [← Option.some.inj number] at fraction
    exact absurd (Int.dvd_mul_left ..) fraction
  | float value =>
    rw [units?] at number
    split_ifs at number with finite
    have units := Option.some.inj number
    have notWhole : value.isWhole = false := by
      rw [← Bool.not_eq_true, isWhole_iff finite, units]
      exact fraction
    refine ⟨value, finite, notWhole, units, ?_⟩
    rw [key?, notWhole, if_neg Bool.false_ne_true]

/-- A number with a fraction lies within the range of 64 bits. -/
theorem within_of_fraction {x : Binary64} (finite : x.isFinite = true)
    (fraction : x.isWhole = false) :
    toInt64.least * unitsPerOne < x.units ∧ x.units < toInt64.greatest * unitsPerOne := by
  have small := natAbs_units_lt finite fraction
  have least : toInt64.least = -2 ^ 63 := rfl
  have greatest : toInt64.greatest = 2 ^ 63 - 1 := rfl
  rw [least, greatest]
  generalize unitsPerOne = one at small ⊢
  constructor <;> omega

/-- Whether two numbers, in units, lie together at or beyond one end of the range of 64 bits. -/
def BeyondOneEnd (units units' : Int) : Prop :=
  (toInt64.greatest * unitsPerOne ≤ units ∧ toInt64.greatest * unitsPerOne ≤ units') ∨
    (units ≤ toInt64.least * unitsPerOne ∧ units' ≤ toInt64.least * unitsPerOne)

/-- A number that is not whole is too small to lie at an end of the range. -/
theorem not_beyondOneEnd_of_fraction {x : Binary64} (finite : x.isFinite = true)
    (fraction : x.isWhole = false) (units : Int) : ¬ BeyondOneEnd units x.units := by
  obtain ⟨above, below⟩ := within_of_fraction finite fraction
  rintro (⟨-, greatest⟩ | ⟨-, least⟩)
  · exact absurd greatest (Int.not_le.mpr below)
  · exact absurd least (Int.not_le.mpr above)

/-- It does not matter which of the two numbers is named first. -/
theorem BeyondOneEnd.symm {units units' : Int} (beyond : BeyondOneEnd units units') :
    BeyondOneEnd units' units :=
  beyond.imp And.symm And.symm

/-- Clamping makes two whole numbers the same only together beyond one end of the range. -/
theorem clamp_eq_iff {whole whole' : Int} :
    max toInt64.least (min toInt64.greatest whole) =
        max toInt64.least (min toInt64.greatest whole') ↔
      whole = whole' ∨ BeyondOneEnd (whole * unitsPerOne) (whole' * unitsPerOne) := by
  have one := intCast_unitsPerOne_pos
  have range : toInt64.least < toInt64.greatest := by decide
  rw [BeyondOneEnd, Int.mul_le_mul_right one, Int.mul_le_mul_right one, Int.mul_le_mul_right one,
    Int.mul_le_mul_right one]
  omega

/-- Two numbers have the same key exactly if they are the same number or lie together at or beyond
one end of the range of 64 bits.

Numbers without a fraction are compared after clamping. With a fraction neither end is in reach:
such a number has another text than a number without one, and a text of its own. -/
theorem key?_eq_iff {first second : Value} {units units' : Int}
    (number : first.units? = some units) (number' : second.units? = some units') :
    ∃ key key', first.key? = some key ∧ second.key? = some key' ∧
      (key = key' ↔ units = units' ∨ BeyondOneEnd units units') := by
  by_cases whole : (unitsPerOne : Int) ∣ units
  · obtain ⟨value, rfl⟩ := exists_eq_mul_left_of_dvd whole
    by_cases whole' : (unitsPerOne : Int) ∣ units'
    · obtain ⟨value', rfl⟩ := exists_eq_mul_left_of_dvd whole'
      refine ⟨_, _, key?_of_whole number, key?_of_whole number', ?_⟩
      rw [decimalText_injective.eq_iff, clamp_eq_iff,
        Int.mul_eq_mul_right_iff intCast_unitsPerOne_pos.ne']
    · obtain ⟨x, finite, fraction, rfl, key⟩ := key?_of_fraction number' whole'
      refine ⟨_, _, key?_of_whole number, key, iff_of_false ?_ ?_⟩
      · exact decimalText_ne_plain finite fraction _
      · rintro (same | beyond)
        · exact whole' (same ▸ whole)
        · exact not_beyondOneEnd_of_fraction finite fraction _ beyond
  · obtain ⟨x, finite, fraction, rfl, key⟩ := key?_of_fraction number whole
    by_cases whole' : (unitsPerOne : Int) ∣ units'
    · obtain ⟨value', rfl⟩ := exists_eq_mul_left_of_dvd whole'
      refine ⟨_, _, key, key?_of_whole number', iff_of_false ?_ ?_⟩
      · exact (decimalText_ne_plain finite fraction _).symm
      · rintro (same | beyond)
        · exact whole (same ▸ whole')
        · exact not_beyondOneEnd_of_fraction finite fraction _ beyond.symm
    · obtain ⟨y, finite', fraction', rfl, key'⟩ := key?_of_fraction number' whole'
      refine ⟨_, _, key, key', fun same => ?_, ?_⟩
      · exact .inl (congrArg Binary64.units (eq_of_plain_eq finite finite' same))
      · rintro (same | beyond)
        · have nonzero : x.units ≠ 0 := fun zero => whole (zero ▸ Int.dvd_zero _)
          exact congrArg Binary64.plain (eq_of_units_eq same nonzero)
        · exact absurd beyond (not_beyondOneEnd_of_fraction finite' fraction' _)

/-- An integer and the floating point number that equals it have the same key. -/
theorem key?_twelve :
    (int 12).units? = some (12 * (unitsPerOne : Int)) ∧
      (float 12).units? = some (12 * (unitsPerOne : Int)) ∧ (int 12).key? = (float 12).key? := by
  have whole : (int 12).units? = some (12 * (unitsPerOne : Int)) := by decide +kernel
  have floating : (float 12).units? = some (12 * (unitsPerOne : Int)) := by decide +kernel
  obtain ⟨key, key', written, written', same⟩ := key?_eq_iff whole floating
  refine ⟨whole, floating, ?_⟩
  rw [written, written', same.mpr (.inl rfl)]

/-- Numbers beyond the range of 64 bits are clamped to one key. -/
theorem key?_beyond_range :
    (float 1e19).units? = some (10 ^ 19 * (unitsPerOne : Int)) ∧
      (float 2e19).units? = some (2 * 10 ^ 19 * (unitsPerOne : Int)) ∧
      (10 ^ 19 * unitsPerOne : Int) ≠ 2 * 10 ^ 19 * unitsPerOne ∧
      (float 1e19).key? = some "9223372036854775807" ∧
      (float 2e19).key? = some "9223372036854775807" := by
  decide +kernel

end Value

end ArgoQuery
