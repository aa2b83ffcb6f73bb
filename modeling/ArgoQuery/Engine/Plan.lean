import ArgoQuery.Descriptor.Encoding
import ArgoQuery.Intent
import ArgoQuery.Table.CollectionNames

/-!
# The plan of a query

Everything that is settled before a store is asked: what the question means, the descriptor that
follows from it, how that is displayed, and its fingerprint.
-/

namespace ArgoQuery

/-- What is to be done about a question, and how it is shown. -/
structure Plan where
  intent : Intent
  descriptor : Descriptor
  sql : String
  fingerprint : String
deriving Repr

namespace Plan

/-- The descriptor for a question that has been read. -/
def describe (question : String) (intent : Intent) : Descriptor :=
  let descriptor := Descriptor.ofTopic (Topic.ofText question)
    (intent.location.map Geography.LocationMatch.box) intent.range
  match intent.location with
  | some location => descriptor.withLabel location.label
  | none => descriptor

/-- The plan for a question, made from what it names. -/
def ofQuestion (gazetteer : Geography.Gazetteer) (names : CollectionNames) (question : String) :
    Plan :=
  let intent := Intent.ofText gazetteer question
  let descriptor := describe question intent
  { intent
    descriptor
    sql := descriptor.sql names.locations names.measurements
    fingerprint := descriptor.fingerprint }

end Plan

end ArgoQuery
