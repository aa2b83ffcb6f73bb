import ArgoQuery.Descriptor
import ArgoQuery.Table.CollectionNames
import ArgoQuery.Table.Select

/-!
# What a join asks the store for

Each side of a join is fetched with the conditions that the store can test. A bound that is excluded
is sent as one that is included, and what the store cannot test is not sent at all; both are made up
for by the residual conditions, which are tested on the rows that arrive.
-/

namespace ArgoQuery.Join

/-- The columns that pages are ordered by. Depth tells the measurements of a cycle apart. -/
def pagingOrder : Side → List Column
  | .locations => [.floatId, .cycleNumber]
  | .measurements => [.floatId, .cycleNumber, .pressure]

/-- A condition as the filters of a store. -/
def pushed : Condition → List Filter
  | .notNull column => [.notNull column.name]
  | .between column min max _ => [.atLeast column.name min, .atMost column.name max]
  | .wrapped .. => []

/-- The select for one side of a join, or for what one float contributes to it. -/
def scopedSelect (names : CollectionNames) (descriptor : Descriptor) (side : Side)
    (float : Option String) : Select where
  collection := names.ofSide side
  columns := (descriptor.columnsOf side).map Column.name
  filters :=
    float.toList.map (.equal Column.floatId.name) ++
      ((descriptor.conditionsOn side).filter Condition.isPushable).flatMap pushed
  order := (pagingOrder side).map Column.name

/-- Whether a row that the store returned passes the residual conditions. -/
def survives (descriptor : Descriptor) (side : Side) (row : Row) : Bool :=
  ((descriptor.conditionsOn side).filter Condition.isResidual).all fun condition =>
    condition.holds (row.number? condition.column.name)

/-- Whether a row satisfies a condition. A presence is a presence of any value, every other
condition is about the number that the field holds. -/
def satisfies (row : Row) : Condition → Bool
  | .notNull column => (row.get? column.name).isSome
  | condition => condition.holds (row.number? condition.column.name)

/-- Whether a row satisfies every condition on its side. -/
def qualifies (descriptor : Descriptor) (side : Side) (row : Row) : Bool :=
  (descriptor.conditionsOn side).all (satisfies row)

end ArgoQuery.Join
