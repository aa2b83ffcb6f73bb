import ArgoQuery.Calendar.JulianRange
import ArgoQuery.Descriptor.Condition
import ArgoQuery.Descriptor.Topic
import ArgoQuery.Geography.GeoBox

/-!
# Query descriptors

A descriptor says which collection drives the join and which depends on it, what the rows have to
satisfy, which columns they have and how they are ordered. It is built from the topic, the place and
the time of a question.
-/

namespace ArgoQuery

open Calendar (JulianRange)
open Geography (GeoBox)

/-- A join of the two collections. -/
structure Descriptor where
  topic : Topic
  /-- The collection that is fetched first and decides which floats are looked at. -/
  driving : Side
  /-- The collection that is fetched float by float. -/
  dependent : Side
  joinKey : Column × Column
  conditions : List Condition
  projection : List Column
  ordering : List Column
  /-- The label of the place that the question names. -/
  label : Option String := none
deriving DecidableEq, Repr

namespace Descriptor

/-- The conditions that a place adds to those of every query. -/
def boxConditions (box : GeoBox) : List Condition :=
  [.between .latitude box.latMin box.latMax .included,
    if box.crossesAntimeridian then .wrapped .longitude box.lonMin box.lonMax
    else .between .longitude box.lonMin box.lonMax .included]

/-- The condition that puts the Julian day in a range. -/
def rangeConditions (range : JulianRange) : List Condition :=
  [.between .julianDay range.min range.max .excluded]

/-- The measured columns that a topic shows. -/
def measured : Topic → List Column
  | .salinity => [.salinity]
  | .temperature => [.temperature]
  | .profile | .general => [.temperature, .salinity]

/-- The descriptor of a question. Every row needs a position, and a measurement the column that its
topic is about. -/
def ofTopic (topic : Topic) (box : Option GeoBox) (range : Option JulianRange) : Descriptor where
  topic
  driving := .locations
  dependent := .measurements
  joinKey := (.floatId, .cycleNumber)
  conditions :=
    [.notNull .latitude, .notNull .longitude] ++ (box.map boxConditions).getD [] ++
      (range.map rangeConditions).getD [] ++ topic.required?.toList.map .notNull
  projection :=
    [.floatId, .cycleNumber, .pressure] ++ measured topic ++ [.latitude, .longitude, .julianDay]
  ordering :=
    match topic with
    | .general => [.floatId, .cycleNumber]
    | _ => [.floatId, .cycleNumber, .pressure]

/-- The descriptor under a label. -/
def withLabel (descriptor : Descriptor) (label : String) : Descriptor :=
  { descriptor with label := some label }

/-- The conditions on the columns of one collection. Conditions on key columns belong to
neither. -/
def conditionsOn (descriptor : Descriptor) (side : Side) : List Condition :=
  descriptor.conditions.filter fun condition => condition.side? = some side

/-- The columns fetched from one collection: the key, then what is projected of its own. -/
def columnsOf (descriptor : Descriptor) (side : Side) : List Column :=
  descriptor.joinKey.1 :: descriptor.joinKey.2 ::
    descriptor.projection.filter fun column => column.side? = some side

/-- The query as it is displayed, over collections of the given names. It is never executed. -/
def sql (descriptor : Descriptor) (locations measurements : String) : String :=
  let columns (list : List Column) := ", ".intercalate (list.map Column.qualifiedName)
  let equate (column : Column) := "m." ++ column.name ++ " = l." ++ column.name
  let conditions := descriptor.conditions.map Condition.sql
  "SELECT " ++ columns descriptor.projection ++
    "\nFROM " ++ measurements ++ " m\nJOIN " ++ locations ++ " l ON " ++
    equate descriptor.joinKey.1 ++ " AND " ++ equate descriptor.joinKey.2 ++
    (if conditions.isEmpty then "" else "\nWHERE " ++ "\n  AND ".intercalate conditions) ++
    (if descriptor.ordering.isEmpty then "" else "\nORDER BY " ++ columns descriptor.ordering) ++
    ";"

end Descriptor

end ArgoQuery
