import ArgoQuery.Descriptor.Column

/-!
# What collections are called
-/

namespace ArgoQuery

/-- The names of the collections in a store. -/
structure CollectionNames where
  floats : String := "floats"
  locations : String := "float_locations"
  measurements : String := "float_measurements"
deriving DecidableEq, Repr

/-- The collection of a side. -/
def CollectionNames.ofSide (names : CollectionNames) : Side → String
  | .locations => names.locations
  | .measurements => names.measurements

end ArgoQuery
