import ArgoQuery.Proofs.Binary64.RoundedSums
import ArgoQuery.Proofs.Descriptor.PositionConditions
import ArgoQuery.Settings.Validation
import Mathlib.Algebra.Order.Group.Abs
import Mathlib.Algebra.Order.Group.Int

/-!
# Boxes around coordinates

The box around a coordinate pair reaches as far to every side as the settings say. Main statement:
`locate?_covers_neighbourhood`. It holds every position whose latitude and longitude are no further
from those of the pair than that: the bounds are rounded, but no number lies between a bound and
what it is rounded from.

Longitudes are compared as numbers and not on the circle. The bounds of a box that reaches beyond
the antimeridian are longitudes beyond 180 or -180 degrees, where no position is, and the box does
not go on from the other side. So the positions there are not in it, however near they are:
`locate?_misses_antimeridian`.
-/

namespace ArgoQuery

open Binary64 (unitsPerOne le_iff_units_le isNaN_eq_false)

namespace Binary64

/-- Whether two numbers are no further apart than given. -/
def IsNear (reach x y : Binary64) : Prop := |x.units - y.units| ≤ reach.units

instance (reach x y : Binary64) : Decidable (reach.IsNear x y) :=
  inferInstanceAs (Decidable (|x.units - y.units| ≤ reach.units))

/-- Whether two angles in degrees are no further apart than given, whole turns not counting. -/
def IsNearOnCircle (reach x y : Binary64) : Prop :=
  ∃ turns : Int, |x.units - y.units + turns * (360 * unitsPerOne)| ≤ reach.units

/-- Two longitudes that are near on the circle are so as numbers, or else one is near one end of
their range and the other is near the other. -/
theorem IsNearOnCircle.cases {reach x y : Binary64} (near : IsNearOnCircle reach x y)
    (short : reach.units ≤ 90 * unitsPerOne) (within : x.isWithin (-180) 180 = true)
    (within' : y.isWithin (-180) 180 = true) :
    IsNear reach x y ∨ (x.units ≤ -90 * unitsPerOne ∧ 90 * unitsPerOne ≤ y.units) ∨
      (90 * unitsPerOne ≤ x.units ∧ y.units ≤ -90 * unitsPerOne) := by
  have limit : (180 : Binary64).isFinite = true ∧
      (180 : Binary64).units = 180 * (unitsPerOne : Int) := by decide +kernel
  obtain ⟨least, most⟩ := units_le_of_isWithin limit.1 within
  obtain ⟨least', most'⟩ := units_le_of_isWithin limit.1 within'
  rw [limit.2] at least most least' most'
  obtain ⟨turns, near⟩ := near
  obtain ⟨low, high⟩ := abs_le.mp near
  have positive := intCast_unitsPerOne_pos
  generalize (unitsPerOne : Int) = one at *
  rcases lt_trichotomy turns 0 with backward | rfl | forward
  · have back := Int.mul_le_mul_of_nonneg_right (Int.le_sub_one_of_lt backward)
      (by omega : 0 ≤ 360 * one)
    exact .inr (.inr (by omega))
  · exact .inl (abs_le.mpr (by omega))
  · have ahead := Int.mul_le_mul_of_nonneg_right (Int.add_one_le_of_lt forward)
      (by omega : 0 ≤ 360 * one)
    exact .inr (.inl (by omega))

end Binary64

namespace Settings

/-- The half width of boxes is finite and positive in valid settings. -/
theorem boxHalfWidth_of_valid {settings : Settings} (valid : settings.fault? = none) :
    settings.engine.boxHalfWidth.isFinite = true ∧ 0 < settings.engine.boxHalfWidth.units := by
  have listed : (⟨!settings.engine.boxHalfWidth.isFinite ||
      decide (settings.engine.boxHalfWidth ≤ 0), .boxHalfWidthNotPositive⟩ : Check) ∈
        settings.checks := by
    simp [checks, EngineSettings.checks]
  have passes := passes_of_valid valid listed
  simp only [Bool.or_eq_false_iff, Bool.not_eq_false', decide_eq_false_iff_not] at passes
  obtain ⟨finite, positive⟩ := passes
  have zero : (0 : Binary64).isNaN = false ∧ (0 : Binary64).units = 0 := by decide +kernel
  rw [le_iff_units_le (isNaN_eq_false finite) zero.1, zero.2, Int.not_le] at positive
  exact ⟨finite, positive⟩

end Settings

namespace Geography.GeoBox

section Around

variable {lat lon reach : Binary64} (finite : lat.isFinite = true) (finite' : lon.isFinite = true)
  (bounded : reach.isFinite = true) (positive : 0 < reach.units)

include finite' bounded positive in
/-- A box around a position is not one across the antimeridian. -/
theorem crossesAntimeridian_around : (around lat lon reach).crossesAntimeridian = false := by
  have number := isNaN_eq_false finite'
  have west : lon - reach ≤ lon := Binary64.sub_le finite' bounded number (by omega)
  have east : lon ≤ lon + reach := Binary64.le_add finite' bounded number (by omega)
  obtain ⟨-, -, west⟩ := Binary64.le_iff.mp west
  obtain ⟨-, -, east⟩ := Binary64.le_iff.mp east
  refine decide_eq_false fun crosses => ?_
  obtain ⟨-, -, beyond⟩ := Binary64.lt_iff.mp crosses
  exact absurd (beyond.trans_le west) (Int.not_lt.mpr east)

include finite finite' bounded positive in
/-- A box around a position holds what is near, latitude and longitude being compared as numbers. -/
theorem contains_around_of_isNear {lat' lon' : Binary64} (number : lat'.isNaN = false)
    (number' : lon'.isNaN = false) (near : reach.IsNear lat' lat) (near' : reach.IsNear lon' lon) :
    (around lat lon reach).contains lat' lon' = true := by
  obtain ⟨low, high⟩ := abs_le.mp near
  obtain ⟨low', high'⟩ := abs_le.mp near'
  refine ((contains_and_comparesLatitude_iff _ lat' lon').mpr ⟨⟨?_, ?_⟩, ?_⟩).1
  · exact Binary64.sub_le finite bounded number (by omega)
  · exact Binary64.le_add finite bounded number (by omega)
  · rw [crossesAntimeridian_around finite' bounded positive]
    refine ⟨?_, ?_⟩
    · exact Binary64.sub_le finite' bounded number' (by omega)
    · exact Binary64.le_add finite' bounded number' (by omega)

end Around

/-- A longitude in a box that does not cross the antimeridian lies between its bounds. -/
theorem longitude_of_contains {box : GeoBox} {lat lon : Binary64}
    (uncrossed : box.crossesAntimeridian = false) (inside : box.contains lat lon = true) :
    box.lonMin ≤ lon ∧ lon ≤ box.lonMax := by
  simp only [contains, uncrossed, Bool.false_eq_true, if_false] at inside
  split_ifs at inside
  exact of_decide_eq_true inside

section Missed

variable {lat lon reach : Binary64} (within : lon.isWithin (-180) 180 = true)
  (bounded : reach.isFinite = true) (positive : 0 < reach.units)
  (short : reach.units ≤ 90 * unitsPerOne)

include within bounded positive short in
/-- A box around a position does not hold what is near only across the antimeridian.

One of the two longitudes is at least 90 degrees to the east and the other as far to the west. The
box reaches no further than to zero. -/
theorem contains_around_of_isNearOnCircle {lat' lon' : Binary64}
    (within' : lon'.isWithin (-180) 180 = true) (near : reach.IsNearOnCircle lon' lon)
    (far : ¬ reach.IsNear lon' lon) : (around lat lon reach).contains lat' lon' = false := by
  have zero : (0 : Binary64).isNaN = false ∧ (0 : Binary64).units = 0 := by decide +kernel
  have limit : (180 : Binary64).isFinite = true := by decide +kernel
  have finite := Binary64.isFinite_of_isWithin limit within
  have finite' := Binary64.isFinite_of_isWithin limit within'
  rw [← Bool.not_eq_true]
  intro inside
  obtain ⟨west, east⟩ := longitude_of_contains
    (crossesAntimeridian_around finite bounded positive) inside
  have number := isNaN_eq_false finite'
  have degrees := Binary64.intCast_unitsPerOne_pos
  rcases near.cases short within' within with near | ⟨onWest, onEast⟩ | ⟨onEast, onWest⟩
  · exact far near
  · have gap : 0 ≤ lon - reach := Binary64.le_sub finite bounded zero.1 (by omega)
    have beyond := (le_iff_units_le zero.1 number).mp (Binary64.le_trans gap west)
    omega
  · have gap : lon + reach ≤ 0 := Binary64.add_le finite bounded zero.1 (by omega)
    have beyond := (le_iff_units_le number zero.1).mp (Binary64.le_trans east gap)
    omega

end Missed

end Geography.GeoBox

namespace Geography

/-- Where a text is located that names no region but a coordinate pair. -/
theorem locate?_of_coordinates {gazetteer : Gazetteer} {text : String} {pair : CoordinatePair}
    {lat lon : Binary64} (unnamed : gazetteer.regionIn? text = none)
    (written : CoordinatePair.firstIn? text.toList = some pair)
    (degrees : pair.degrees? = some (lat, lon)) :
    gazetteer.locate? text = some {
      box := GeoBox.around lat lon gazetteer.halfWidth
      label := "Near " ++ lat.plain ++ "°, " ++ lon.plain ++ "°"
      matched := String.ofList pair.matched } := by
  rw [Gazetteer.locate?, unnamed, Option.none_or, Gazetteer.coordinatesIn?, written]
  simp only [Option.bind_eq_bind, Option.bind_some, degrees]
  rfl

/-- The box around the coordinates of a text holds every position whose latitude and longitude, as
numbers, are no further from them than valid settings say. Of the positions that are as near on the
circle only it holds none, as long as boxes reach no further than 90 degrees.

The bounds of the box are rounded, but rounding keeps the order, so no position between the exact
bounds is lost. -/
theorem locate?_covers_neighbourhood {settings : Settings} {text : String} {pair : CoordinatePair}
    {lat lon : Binary64} (valid : settings.fault? = none)
    (unnamed : settings.gazetteer.regionIn? text = none)
    (written : CoordinatePair.firstIn? text.toList = some pair)
    (degrees : pair.degrees? = some (lat, lon)) (latitude : lat.isWithin (-90) 90 = true)
    (longitude : lon.isWithin (-180) 180 = true) :
    ∃ place, settings.gazetteer.locate? text = some place ∧
      ∀ lat' lon', lat'.isWithin (-90) 90 = true → lon'.isWithin (-180) 180 = true →
        settings.engine.boxHalfWidth.IsNear lat' lat →
        (settings.engine.boxHalfWidth.IsNear lon' lon → place.box.contains lat' lon' = true) ∧
        (settings.engine.boxHalfWidth ≤ 90 →
          settings.engine.boxHalfWidth.IsNearOnCircle lon' lon →
          ¬ settings.engine.boxHalfWidth.IsNear lon' lon →
          place.box.contains lat' lon' = false) := by
  obtain ⟨bounded, positive⟩ := Settings.boxHalfWidth_of_valid valid
  have pole : (90 : Binary64).isFinite = true ∧
      (90 : Binary64).units = 90 * (unitsPerOne : Int) := by decide +kernel
  have antimeridian : (180 : Binary64).isFinite = true := by decide +kernel
  have finite := Binary64.isFinite_of_isWithin pole.1 latitude
  have finite' := Binary64.isFinite_of_isWithin antimeridian longitude
  refine ⟨_, locate?_of_coordinates unnamed written degrees, ?_⟩
  intro lat' lon' latitude' longitude' near
  constructor
  · intro near'
    exact GeoBox.contains_around_of_isNear finite finite' bounded positive
      (isNaN_eq_false (Binary64.isFinite_of_isWithin pole.1 latitude'))
      (isNaN_eq_false (Binary64.isFinite_of_isWithin antimeridian longitude')) near near'
  · intro small nearOnCircle far
    have short := (le_iff_units_le (isNaN_eq_false bounded) (isNaN_eq_false pole.1)).mp small
    rw [pole.2] at short
    exact GeoBox.contains_around_of_isNearOnCircle longitude bounded positive short longitude'
      nearOnCircle far

/-- Settings that choose nothing but a store. -/
def plainSettings : Settings where
  logLevel := "info"
  store := { apiBase := "http://localhost", apiKey := "key", timeoutMs := 1000 }

/-- Around 15.5°S, 70°W the box holds a position four degrees away in both directions. -/
theorem locate?_covers_southwest :
    let text := "Get data near 15.5°S, 70°W"
    plainSettings.fault? = none ∧ plainSettings.gazetteer.regionIn? text = none ∧
      ∃ pair, CoordinatePair.firstIn? text.toList = some pair ∧
        pair.degrees? = some (-15.5, -70) ∧
        ∃ place, plainSettings.gazetteer.locate? text = some place ∧
          place.box.contains (-11.5) (-66) = true := by
  intro text
  have valid : plainSettings.fault? = none := by decide +kernel
  have unnamed : plainSettings.gazetteer.regionIn? text = none := by decide +kernel
  let pair : CoordinatePair := ⟨"15.5".toList, true, "70".toList, true, "15.5°S, 70°W".toList⟩
  have written : CoordinatePair.firstIn? text.toList = some pair := by decide +kernel
  have degrees : pair.degrees? = some (-15.5, -70) := by decide +kernel
  obtain ⟨place, located, covers⟩ := locate?_covers_neighbourhood valid unnamed written degrees
    (by decide +kernel) (by decide +kernel)
  have near := covers (-11.5) (-66) (by decide +kernel) (by decide +kernel) (by decide +kernel)
  exact ⟨valid, unnamed, pair, written, degrees, place, located, near.1 (by decide +kernel)⟩

/-- Three degrees to the east of 0°N 179°E lies the longitude of 178°W, and the box around that
place does not hold it, although it reaches five degrees to every side. -/
theorem locate?_misses_antimeridian :
    let text := "salinity near 0N 179E"
    plainSettings.fault? = none ∧ plainSettings.gazetteer.regionIn? text = none ∧
      ((CoordinatePair.firstIn? text.toList).bind CoordinatePair.degrees?) = some (0, 179) ∧
      plainSettings.engine.boxHalfWidth = 5 ∧ Binary64.IsNear 5 0 0 ∧
      Binary64.IsNearOnCircle 5 (-178) 179 ∧
      (plainSettings.gazetteer.locate? text).map (fun place => place.box.contains 0 (-178)) =
        some false := by
  refine ⟨by decide +kernel, by decide +kernel, by decide +kernel, rfl, by decide +kernel, ⟨1, ?_⟩,
    by decide +kernel⟩
  decide +kernel

end Geography

end ArgoQuery
