/-!
# Collections and their columns

Two collections are joined: the positions of the floats, one per cycle, and their measurements, many
per cycle. Both are keyed by the float and the number of its cycle.
-/

namespace ArgoQuery

/-- One of the two collections that a query joins. -/
inductive Side where
  /-- One position per float and cycle. -/
  | locations
  /-- One row per depth at which a float measured during a cycle. -/
  | measurements
deriving DecidableEq, Repr

/-- The name of a side. -/
def Side.name : Side → String
  | .locations => "locations"
  | .measurements => "measurements"

/-- The columns that a join knows. -/
inductive Column where
  | floatId
  | cycleNumber
  | pressure
  | temperature
  | salinity
  | latitude
  | longitude
  | julianDay
deriving DecidableEq, Repr

namespace Column

/-- The name of the column in its collection. -/
def name : Column → String
  | floatId => "float_id"
  | cycleNumber => "cycle_number"
  | pressure => "pres_adjusted"
  | temperature => "temp_adjusted"
  | salinity => "psal_adjusted"
  | latitude => "latitude"
  | longitude => "longitude"
  | julianDay => "juld"

/-- All columns. -/
def all : List Column :=
  [floatId, cycleNumber, pressure, temperature, salinity, latitude, longitude, julianDay]

/-- The collection that a column belongs to. A key column is in both and belongs to neither. -/
def side? : Column → Option Side
  | floatId | cycleNumber => none
  | latitude | longitude | julianDay => some .locations
  | pressure | temperature | salinity => some .measurements

/-- The column's name under the letter of its collection; a key column is shown as a
measurement's. -/
def qualifiedName (column : Column) : String :=
  (if column.side? = some .locations then "l." else "m.") ++ column.name

end Column

end ArgoQuery
