import ArgoQuery.Descriptor
import ArgoQuery.Digest.Blake3
import ArgoQuery.Json.Printer

/-!
# Descriptors as JSON

The order of the fields is fixed, so equal descriptors have equal texts, and the digest of the
compact text identifies a descriptor.
-/

namespace ArgoQuery

/-- The name of an upper end. -/
def UpperEnd.name : UpperEnd → String
  | .included => "inclusive"
  | .excluded => "exclusive"

/-- A column is written as its name. -/
def Column.toJson (column : Column) : Json := .text column.name

/-- A side is written as its name. -/
def Side.toJson (side : Side) : Json := .text side.name

/-- A condition is written with its kind first. -/
def Condition.toJson : Condition → Json
  | .notNull column => .object [("op", .text "not_null"), ("column", column.toJson)]
  | .between column min max upper =>
    .object [("op", .text "between"), ("column", column.toJson), ("min", .float min),
      ("max", .float max), ("upper", .text upper.name)]
  | .wrapped column start stop =>
    .object [("op", .text "wrapped"), ("column", column.toJson), ("from", .float start),
      ("to", .float stop)]

namespace Descriptor

/-- A descriptor is written field by field. -/
def toJson (descriptor : Descriptor) : Json :=
  .object [("kind", .text descriptor.topic.name),
    ("driving", descriptor.driving.toJson),
    ("dependent", descriptor.dependent.toJson),
    ("join_key", .ofList Column.toJson [descriptor.joinKey.1, descriptor.joinKey.2]),
    ("filters", .ofList Condition.toJson descriptor.conditions),
    ("projection", .ofList Column.toJson descriptor.projection),
    ("ordering", .ofList Column.toJson descriptor.ordering),
    ("location_label", .ofOption .text descriptor.label)]

/-- The digest of the descriptor's compact text. -/
def fingerprint (descriptor : Descriptor) : String :=
  Digest.Blake3.hexDigest descriptor.toJson.compact

end Descriptor

end ArgoQuery
