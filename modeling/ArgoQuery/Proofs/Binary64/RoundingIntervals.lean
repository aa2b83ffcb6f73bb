import ArgoQuery.Binary64.Shortest
import ArgoQuery.Proofs.Binary64.Magnitudes

/-!
# Rounding intervals

The rounding intervals of two magnitudes have no point in common: intervals that meet do so in the
middle between neighbours, and that is a point of the even one alone. So a decimal rounds to one
magnitude at most (`Decimal.RoundsTo.unique`). The shortest decimal of a magnitude rounds to it
(`shortest_roundsTo`), and a decimal without a fraction rounds to what has no fraction
(`Decimal.RoundsTo.whole`).
-/

namespace ArgoQuery

open Binary64

/-- Whether a decimal lies in the rounding interval of a magnitude. The point of the decimal and the
interval are counted in halves of a unit, or in parts of these if the decimal has a fraction. -/
def Decimal.RoundsTo (decimal : Decimal) (magnitude : Nat) : Prop :=
  ((RoundingInterval.ofMagnitude magnitude).scale (Nat.pow 10 (-decimal.exponent).toNat)).admits
    (decimal.digits * (2 * unitsPerOne * Nat.pow 10 decimal.exponent.toNat)) = true

namespace Binary64

namespace RoundingInterval

/-- A point lies between the ends of an interval, and is one of them only if they belong to it. -/
theorem bounds_of_admits {interval : RoundingInterval} {factor point : Nat}
    (admitted : (interval.scale factor).admits point = true) :
    interval.low * factor ≤ point ∧ point ≤ interval.high * factor ∧
      (interval.closed = false →
        interval.low * factor < point ∧ point < interval.high * factor) := by
  rw [admits, scale] at admitted
  cases closed : interval.closed with
  | true =>
    simp only [closed, if_true, decide_eq_true_eq] at admitted
    exact ⟨admitted.1, admitted.2, fun opened => by cases opened⟩
  | false =>
    simp only [closed, Bool.false_eq_true, if_false, decide_eq_true_eq] at admitted
    exact ⟨admitted.1.le, admitted.2.le, fun _ => admitted⟩

/-- The interval of a magnitude has the number itself as a point. -/
theorem admits_value (magnitude : Nat) {factor : Nat} (positive : 0 < factor) :
    ((ofMagnitude magnitude).scale factor).admits ((ofMagnitude magnitude).value * factor) =
      true := by
  have above : (ofMagnitude magnitude).value < (ofMagnitude magnitude).high := by
    have next : unitsOfMagnitude magnitude < unitsOfMagnitude (magnitude + 1) :=
      unitsOfMagnitude_strictMono (Nat.lt_succ_self _)
    simp only [ofMagnitude]
    omega
  have aboveScaled := Nat.mul_lt_mul_of_pos_right above positive
  rw [admits, scale]
  by_cases even : magnitude % 2 = 0
  · have below : (ofMagnitude magnitude).low ≤ (ofMagnitude magnitude).value := by
      have previous : unitsOfMagnitude (magnitude - 1) ≤ unitsOfMagnitude magnitude :=
        unitsOfMagnitude_strictMono.monotone (Nat.sub_le ..)
      simp only [ofMagnitude]
      omega
    have closed : (ofMagnitude magnitude).closed = true := decide_eq_true even
    rw [if_pos closed]
    exact decide_eq_true ⟨Nat.mul_le_mul_right factor below, aboveScaled.le⟩
  · have below : (ofMagnitude magnitude).low < (ofMagnitude magnitude).value := by
      have previous : unitsOfMagnitude (magnitude - 1) < unitsOfMagnitude magnitude :=
        unitsOfMagnitude_strictMono (by omega)
      simp only [ofMagnitude]
      omega
    have opened : ¬ (ofMagnitude magnitude).closed = true := by
      simpa [ofMagnitude] using even
    rw [if_neg opened]
    exact decide_eq_true ⟨Nat.mul_lt_mul_of_pos_right below positive, aboveScaled⟩

/-- The interval of a greater magnitude has no point in common.

The upper end of the smaller one is not above the lower end of the greater one. Where they coincide
the magnitudes are neighbours, and only one of these is even. -/
theorem not_admits_of_lt {magnitude greater factor point : Nat} (positive : 0 < factor)
    (order : magnitude < greater)
    (admitted : ((ofMagnitude magnitude).scale factor).admits point = true)
    (admitted' : ((ofMagnitude greater).scale factor).admits point = true) : False := by
  obtain ⟨-, most, inside⟩ := bounds_of_admits admitted
  obtain ⟨least, -, inside'⟩ := bounds_of_admits admitted'
  have mono := unitsOfMagnitude_strictMono.monotone
  have first : unitsOfMagnitude magnitude ≤ unitsOfMagnitude (greater - 1) := mono (by omega)
  have second : unitsOfMagnitude (magnitude + 1) ≤ unitsOfMagnitude greater := mono order
  have meet : (ofMagnitude magnitude).high ≤ (ofMagnitude greater).low := by
    simp only [ofMagnitude]
    omega
  have scaled := Nat.mul_le_mul_right factor meet
  by_cases even : magnitude % 2 = 0
  · by_cases even' : greater % 2 = 0
    · have apart : unitsOfMagnitude (magnitude + 1) < unitsOfMagnitude greater :=
        unitsOfMagnitude_strictMono (by omega)
      have strictly : (ofMagnitude magnitude).high < (ofMagnitude greater).low := by
        simp only [ofMagnitude]
        omega
      have scaledStrictly := Nat.mul_lt_mul_of_pos_right strictly positive
      omega
    · have opened' : (ofMagnitude greater).closed = false := by simpa [ofMagnitude] using even'
      have above := (inside' opened').1
      omega
  · have opened : (ofMagnitude magnitude).closed = false := by simpa [ofMagnitude] using even
    have below := (inside opened).2
    omega

/-- A point that is found on a grid lies in the interval. -/
theorem admits_of_gridPoint {interval : RoundingInterval} {tie : Tie} {exponent : Int}
    {digits : Nat} (found : interval.gridPoint tie exponent = some digits) :
    (interval.scale (Nat.pow 10 (-exponent).toNat)).admits
      (digits * (2 * unitsPerOne * Nat.pow 10 exponent.toNat)) = true := by
  rw [← two_pow_succ_eq]
  unfold gridPoint at found
  generalize interval.scale (Nat.pow 10 (-exponent).toNat) = measured at found ⊢
  generalize Nat.pow 2 1075 * Nat.pow 10 exponent.toNat = step at found ⊢
  cases lower : measured.admits (measured.value / step * step) <;>
    cases upper : measured.admits ((measured.value / step + 1) * step) <;>
    simp only [lower, upper] at found
  case false.false => cases found
  case false.true => rwa [← Option.some.inj found]
  case true.false => rwa [← Option.some.inj found]
  case true.true =>
    have oneOfTwo : digits = measured.value / step ∨ digits = measured.value / step + 1 := by
      split_ifs at found
      · exact .inl (Option.some.inj found).symm
      · exact .inr (Option.some.inj found).symm
      · cases tie with
        | toEven =>
          have even := Option.some.inj found
          omega
        | upward => exact .inr (Option.some.inj found).symm
    rcases oneOfTwo with rfl | rfl
    · exact lower
    · exact upper

/-- An even number of halves is a decimal of so many places. -/
theorem exact_point {value places : Nat} (even : value % 2 = 0) :
    value / 2 * Nat.pow 5 places * (Nat.pow 2 (places + 1) * Nat.pow 10 (-(places : Int)).toNat) =
      value * Nat.pow 10 (-(-(places : Int))).toNat := by
  obtain ⟨own, rfl⟩ := Nat.dvd_of_mod_eq_zero even
  have ten : 10 ^ places = 2 ^ places * 5 ^ places := Nat.mul_pow 2 5 places
  rw [Int.toNat_neg_natCast, Int.neg_neg, Int.toNat_natCast,
    Nat.mul_div_cancel_left own Nat.two_pos]
  simp only [Nat.pow_eq]
  rw [ten]
  ring

/-- Whatever the search comes to lies in the interval: a point of one of the grids, or the number
itself. -/
theorem coarsest_roundsTo (tie : Tie) (magnitude grids : Nat) (exponent : Int) :
    ((ofMagnitude magnitude).coarsest tie grids exponent).RoundsTo magnitude := by
  induction grids generalizing exponent with
  | zero =>
    have even : (ofMagnitude magnitude).value % 2 = 0 := Nat.mul_mod_right ..
    have halves : 1075 = 1074 + 1 := rfl
    have places : (-1074 : Int) = -((1074 : Nat) : Int) := rfl
    rw [coarsest, Decimal.RoundsTo, ← two_pow_succ_eq, halves, places]
    generalize 1074 = unitPlaces
    rw [exact_point even]
    exact admits_value magnitude (Nat.pow_pos (by decide))
  | succ grids ih =>
    rw [coarsest]
    cases found : (ofMagnitude magnitude).gridPoint tie exponent with
    | none => exact ih (exponent - 1)
    | some digits => exact admits_of_gridPoint found

end RoundingInterval

/-- The shortest decimal of a magnitude rounds to it. -/
theorem shortest_roundsTo (tie : Tie) (magnitude : Nat) :
    (shortest tie magnitude).RoundsTo magnitude :=
  RoundingInterval.coarsest_roundsTo ..

end Binary64

namespace Decimal.RoundsTo

/-- A decimal rounds to one magnitude only. -/
theorem unique {decimal : Decimal} {magnitude other : Nat} (rounds : decimal.RoundsTo magnitude)
    (rounds' : decimal.RoundsTo other) : magnitude = other := by
  have positive : 0 < Nat.pow 10 (-decimal.exponent).toNat := Nat.pow_pos (by decide)
  rcases Nat.lt_trichotomy magnitude other with smaller | same | greater
  · exact (RoundingInterval.not_admits_of_lt positive smaller rounds rounds').elim
  · exact same
  · exact (RoundingInterval.not_admits_of_lt positive greater rounds' rounds).elim

/-- The decimal zero rounds to zero. -/
theorem zero : (Decimal.mk 0 0).RoundsTo 0 := by
  rw [Decimal.RoundsTo, Nat.zero_mul]
  rfl

/-- Zeros may take the place of an exponent that is not negative. -/
theorem expand {decimal : Decimal} {magnitude : Nat} (rounds : decimal.RoundsTo magnitude)
    (whole : 0 ≤ decimal.exponent) :
    (Decimal.mk (decimal.digits * 10 ^ decimal.exponent.toNat) 0).RoundsTo magnitude := by
  have places : (-decimal.exponent).toNat = (-0 : Int).toNat := by omega
  have point : decimal.digits * 10 ^ decimal.exponent.toNat *
      (2 * unitsPerOne * Nat.pow 10 (0 : Int).toNat) =
        decimal.digits * (2 * unitsPerOne * Nat.pow 10 decimal.exponent.toNat) := by
    simp only [Int.toNat_zero, Nat.pow_eq, Nat.pow_zero]
    ring
  rw [Decimal.RoundsTo, places] at rounds
  rw [Decimal.RoundsTo, point]
  exact rounds

/-- What a decimal without a fraction rounds to has no fraction.

Otherwise one is a multiple of twice the gap. The decimal is a multiple of one and lies within half
a gap of the number, which is a multiple of the gap: so both are the same. -/
theorem whole {digits magnitude : Nat} (rounds : (Decimal.mk digits 0).RoundsTo magnitude) :
    unitsOfMagnitude magnitude % unitsPerOne = 0 := by
  rcases whole_or_gap_dvd magnitude with whole | ⟨factor, one⟩
  · exact whole
  obtain ⟨least, most, -⟩ := RoundingInterval.bounds_of_admits rounds
  have scaled : Nat.pow 10 (0 : Int).toNat = 1 := rfl
  have point : digits * (2 * unitsPerOne) = 4 * (digits * factor) * gap magnitude := by
    rw [one]
    ring
  simp only [RoundingInterval.ofMagnitude, Int.neg_zero, scaled, Nat.mul_one] at least most
  have own := unitsOfMagnitude_eq magnitude
  have next := unitsOfMagnitude_succ magnitude
  have previous := le_unitsOfMagnitude_pred magnitude
  have atLeast : 2 * coefficient magnitude ≤ 4 * (digits * factor) + 1 := by
    refine Nat.le_of_mul_le_mul_right ?_ (gap_pos magnitude)
    rw [Nat.add_mul, ← point, Nat.mul_assoc, ← own]
    omega
  have atMost : 4 * (digits * factor) ≤ 2 * coefficient magnitude + 1 := by
    refine Nat.le_of_mul_le_mul_right ?_ (gap_pos magnitude)
    rw [Nat.add_mul, ← point, Nat.mul_assoc 2 (coefficient magnitude), ← own]
    omega
  have same : coefficient magnitude = digits * factor * 2 := by omega
  have multiple : unitsOfMagnitude magnitude = digits * unitsPerOne := by
    rw [own, same, one]
    ring
  rw [multiple]
  exact Nat.mul_mod_left ..

end Decimal.RoundsTo

end ArgoQuery
