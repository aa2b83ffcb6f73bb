import ArgoQuery.Json
import ArgoQuery.Report

/-!
# Reports as JSON
-/

namespace ArgoQuery

/-- A spread is written with its count. -/
def Spread.toJson (spread : Spread) : Json :=
  .object [("min", .float spread.min), ("max", .float spread.max), ("mean", .float spread.mean),
    ("count", .ofNat spread.count)]

namespace Report

/-- A position is written as latitude and longitude. -/
def pointToJson (point : Binary64 × Binary64) : Json :=
  .object [("latitude", .float point.1), ("longitude", .float point.2)]

/-- A report is written field by field. -/
def toJson (report : Report) : Json :=
  .object [("record_count", .ofNat report.recordCount),
    ("float_count", .ofNat report.floatCount),
    ("location_count", .ofNat report.locationCount),
    ("center", .ofOption pointToJson report.center),
    ("region", .ofOption .text report.region),
    ("salinity", .ofOption Spread.toJson report.salinity),
    ("temperature", .ofOption Spread.toJson report.temperature),
    ("pressure", .ofOption Spread.toJson report.pressure),
    ("max_depth", .ofOption .float report.maxDepth),
    ("time_span_days", .ofOption .float report.timeSpanDays),
    ("narrative", .text report.narrative),
    ("context", .ofList .text report.context)]

end Report

end ArgoQuery
