import ArgoQuery.Join.KeyIndex
import ArgoQuery.Descriptor

/-!
# The join by definition

The same rows without an index and without requests: every measurement that a question is about is
paired with the last position of its cycle that the question is about, and the pair is written as
one row. This is what the join over a store is judged by.
-/

namespace ArgoQuery.Join.NestedLoop

open Calendar (JulianRange)
open Geography (GeoBox)

/-- Whether a row of one side is what a question is about: a position that is known and lies in the
box and in the range, or a measurement that has the column of the topic. A number that is missing or
undefined lies nowhere. -/
def wanted (topic : Topic) (box : Option GeoBox) (range : Option JulianRange) :
    Side → Row → Bool
  | .locations, row =>
    let latitude := row.number? Column.latitude.name
    let longitude := row.number? Column.longitude.name
    let julianDay := row.number? Column.julianDay.name
    (row.get? Column.latitude.name).isSome && (row.get? Column.longitude.name).isSome &&
      (box.all fun box =>
        (latitude.any fun lat => decide (box.latMin ≤ lat ∧ lat ≤ box.latMax)) &&
          longitude.any fun lon =>
            if box.crossesAntimeridian then decide (box.lonMin ≤ lon ∨ lon ≤ box.lonMax)
            else decide (box.lonMin ≤ lon ∧ lon ≤ box.lonMax)) &&
      range.all fun range => julianDay.any fun day => decide (range.min ≤ day ∧ day < range.max)
  | .measurements, row => topic.required?.all fun column => (row.get? column.name).isSome

/-- A measurement with the last of the positions that have its key, if it has a key and any of them
has it. -/
def match? (positions : List Row) (measurement : Row) : Option (Row × Row) := do
  let key ← CycleKey.ofRow? measurement
  let position ← key.last? positions
  return (measurement, position)

/-- The measurements and positions that belong together, of the rows of each side that are kept. -/
def pairs (keep : Side → Row → Bool) (locations measurements : List Row) : List (Row × Row) :=
  (measurements.filter (keep .measurements)).filterMap
    (match? (locations.filter (keep .locations)))

/-- A measurement and its position as one row with the given columns: those of a position have null
where the position has no value, the others are as the measurement has them. -/
def joined (projection : List Column) : Row × Row → Row
  | (measurement, position) => ⟨projection.filterMap fun column =>
      if column.side? = some .locations then
        some (column.name, (position.get? column.name).getD .null)
      else (measurement.stored? column.name).map (column.name, ·)⟩

end ArgoQuery.Join.NestedLoop
