import ArgoQuery.Join
import ArgoQuery.Json

/-!
# The statistics of a join as JSON
-/

namespace ArgoQuery.Join

/-- The name of a stage. -/
def Stage.name : Stage → String
  | .done => "DONE"
  | .empty => "EMPTY"

/-- Statistics are written count by count. -/
def Statistics.toJson (statistics : Statistics) : Json :=
  .object [("driving_rows_fetched", .ofNat statistics.drivingFetched),
    ("driving_rows_kept", .ofNat statistics.drivingKept),
    ("distinct_keys", .ofNat statistics.distinctKeys),
    ("duplicate_keys", .ofNat statistics.duplicateKeys),
    ("floats_queried", .ofNat statistics.floatsQueried),
    ("floats_failed", .ofList .text statistics.floatsFailed),
    ("dependent_rows_fetched", .ofNat statistics.dependentFetched),
    ("dependent_rows_retained", .ofNat statistics.dependentRetained),
    ("rows_merged", .ofNat statistics.rowsMerged),
    ("stage", .text statistics.stage.name)]

end ArgoQuery.Join
