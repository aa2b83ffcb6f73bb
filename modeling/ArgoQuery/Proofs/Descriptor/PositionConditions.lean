import ArgoQuery.Proofs.Join.Pushdown

/-!
# Conditions on a position and the region they come from

A descriptor tests a position by its conditions; a box and a range test it themselves. Main
statement: `accepts_conditionsOn_locations`. The conditions on the positions of a question accept a
latitude, a longitude and a Julian day exactly if the box and the range contain them and no NaN
takes part in the test of the latitude.

The exception is the box's own. It refuses a latitude for being out of bounds, where a condition
accepts one for being within them, and a NaN is neither: `contains_nan_latitude`. Longitudes and
Julian days are accepted for being within bounds in both tests, so there is no exception for them.

Every box and range is meant, also one whose bounds are inverted, infinite or NaN.
-/

namespace ArgoQuery

namespace Binary64

/-- Of two numbers the first is at most the second, or else the second is less. -/
theorem le_iff_not_lt {x y : Binary64} (defined : x.isNaN = false) (defined' : y.isNaN = false) :
    x ≤ y ↔ ¬ y < x := by
  rw [le_iff, lt_iff]
  constructor
  · rintro ⟨-, -, ranks⟩ ⟨-, -, less⟩
    exact absurd less (Int.not_lt.mpr ranks)
  · intro notLess
    refine ⟨defined, defined', Int.not_lt.mp ?_⟩
    intro less
    exact notLess ⟨defined', defined, less⟩

/-- A number is within bounds exactly if it is not out of them and there is no NaN among the
three. -/
theorem within_iff (x min max : Binary64) :
    (min ≤ x ∧ x ≤ max) ↔
      ¬ (x < min ∨ max < x) ∧ x.isNaN = false ∧ min.isNaN = false ∧ max.isNaN = false := by
  constructor
  · rintro ⟨above, below⟩
    obtain ⟨lower, number, -⟩ := le_iff.mp above
    obtain ⟨-, upper, -⟩ := le_iff.mp below
    refine ⟨?_, number, lower, upper⟩
    rintro (less | less)
    · exact (le_iff_not_lt lower number).mp above less
    · exact (le_iff_not_lt number upper).mp below less
  · rintro ⟨inside, number, lower, upper⟩
    rw [not_or] at inside
    exact ⟨(le_iff_not_lt lower number).mpr inside.1, (le_iff_not_lt number upper).mpr inside.2⟩

end Binary64

namespace Geography.GeoBox

/-- Whether the latitude and the bounds that it is compared with are numbers. -/
def comparesLatitude (box : GeoBox) (lat : Binary64) : Bool :=
  !lat.isNaN && !box.latMin.isNaN && !box.latMax.isNaN

/-- What it takes to lie in a box, in terms of being within bounds. -/
theorem contains_and_comparesLatitude_iff (box : GeoBox) (lat lon : Binary64) :
    (box.contains lat lon = true ∧ box.comparesLatitude lat = true) ↔
      (box.latMin ≤ lat ∧ lat ≤ box.latMax) ∧
        if box.crossesAntimeridian then box.lonMin ≤ lon ∨ lon ≤ box.lonMax
        else box.lonMin ≤ lon ∧ lon ≤ box.lonMax := by
  have longitude : box.contains lat lon = true ↔
      ¬ (lat < box.latMin ∨ box.latMax < lat) ∧
        if box.crossesAntimeridian then box.lonMin ≤ lon ∨ lon ≤ box.lonMax
        else box.lonMin ≤ lon ∧ lon ≤ box.lonMax := by
    rw [contains]
    split_ifs with out crosses <;> simp [out]
  have defined : box.comparesLatitude lat = true ↔
      lat.isNaN = false ∧ box.latMin.isNaN = false ∧ box.latMax.isNaN = false := by
    simp [comparesLatitude, and_assoc]
  rw [longitude, defined, Binary64.within_iff lat, and_right_comm]

end Geography.GeoBox

namespace Descriptor

open Calendar (JulianRange)
open Geography (GeoBox)

/-- What a position holds in a column. -/
def coordinate? (lat lon day : Binary64) : Column → Option Binary64
  | .latitude => some lat
  | .longitude => some lon
  | .julianDay => some day
  | _ => none

/-- Whether conditions accept a position. -/
def accepts (conditions : List Condition) (lat lon day : Binary64) : Bool :=
  conditions.all fun condition => condition.holds (coordinate? lat lon day condition.column)

/-- Conditions accept a position exactly if the first and the last of them do. -/
@[simp]
theorem accepts_append (first second : List Condition) (lat lon day : Binary64) :
    accepts (first ++ second) lat lon day =
      (accepts first lat lon day && accepts second lat lon day) :=
  List.all_append

/-- The conditions of a box accept what the box contains, except for a latitude that it does not
compare. -/
theorem accepts_boxConditions (box : GeoBox) (lat lon day : Binary64) :
    accepts (boxConditions box) lat lon day =
      (box.contains lat lon && box.comparesLatitude lat) := by
  rw [Bool.eq_iff_iff, Bool.and_eq_true, GeoBox.contains_and_comparesLatitude_iff]
  cases crosses : box.crossesAntimeridian <;>
    simp [accepts, boxConditions, crosses, coordinate?, Condition.column, Condition.holds,
      Condition.admits]

/-- The condition of a range accepts what the range contains. -/
theorem accepts_rangeConditions (range : JulianRange) (lat lon day : Binary64) :
    accepts (rangeConditions range) lat lon day = range.contains day := by
  simp [accepts, rangeConditions, coordinate?, Condition.column, Condition.holds, Condition.admits,
    JulianRange.contains]

/-- The conditions of a question on positions accept a position exactly if its box and its range
contain it, as far as it has them, and no NaN is compared with a latitude.

The conditions are those of the box and those of the range, one after the other, and each part is
compared with the test that it stands for. -/
theorem accepts_conditionsOn_locations (topic : Topic) (box : Option GeoBox)
    (range : Option JulianRange) (lat lon day : Binary64) :
    accepts ((ofTopic topic box range).conditionsOn .locations) lat lon day =
      ((box.all fun area => area.contains lat lon && area.comparesLatitude lat) &&
        range.all fun period => period.contains day) := by
  have known : accepts [.notNull .latitude, .notNull .longitude] lat lon day = true := rfl
  have inBox : accepts ((box.map boxConditions).getD []) lat lon day =
      box.all fun area => area.contains lat lon && area.comparesLatitude lat := by
    cases box with
    | none => rfl
    | some area => exact accepts_boxConditions area lat lon day
  have inRange : accepts ((range.map rangeConditions).getD []) lat lon day =
      range.all fun period => period.contains day := by
    cases range with
    | none => rfl
    | some period => exact accepts_rangeConditions period lat lon day
  rw [Join.conditionsOn_ofTopic, accepts_append, accepts_append, known, inBox, inRange,
    Bool.true_and]

/-- A NaN for a latitude lies in a box of all longitudes, and the conditions of that box refuse
it. -/
theorem contains_nan_latitude :
    let box : GeoBox := ⟨-5, 5, -180, 180⟩
    box.contains .nan 0 = true ∧
      accepts ((ofTopic .general (some box) none).conditionsOn .locations) .nan 0 0 = false := by
  decide +kernel

end Descriptor

end ArgoQuery
