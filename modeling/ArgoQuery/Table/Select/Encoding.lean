import ArgoQuery.Json
import ArgoQuery.Table.Select

/-!
# Selects as JSON
-/

namespace ArgoQuery

/-- A filter is written with its kind first. -/
def Filter.toJson : Filter → Json
  | .equal column key =>
    .object [("op", .text "eq"), ("column", .text column), ("value", .text key)]
  | .notNull column => .object [("op", .text "not_null"), ("column", .text column)]
  | .atLeast column bound =>
    .object [("op", .text "gte"), ("column", .text column), ("value", .float bound)]
  | .atMost column bound =>
    .object [("op", .text "lte"), ("column", .text column), ("value", .float bound)]

/-- A select is written field by field. -/
def Select.toJson (select : Select) : Json :=
  .object [("collection", .text select.collection),
    ("columns", .ofList .text select.columns),
    ("filters", .ofList Filter.toJson select.filters),
    ("order", .ofList .text select.order),
    ("limit", .ofOption .ofNat select.limit)]

end ArgoQuery
