import ArgoQuery.Geography.Gazetteer
import ArgoQuery.Json
import ArgoQuery.Table.CollectionNames

/-!
# Settings

What a deployment can choose: where the store is and how it is asked, which provider generates
advisory texts if any does, the limits of a query, and regions beyond the built-in ones.
-/

namespace ArgoQuery

open Geography (Gazetteer Region)

/-- How the store is reached. -/
structure StoreSettings where
  apiBase : String
  apiKey : String
  path : String := "/rest/v1"
  timeoutMs : Nat
  pageSize : Nat := 1000
  /-- Further headers, sorted by name. -/
  defaultHeaders : List (String × Json) := []
  collections : CollectionNames := {}

/-- How the provider of texts is reached, and what it is asked for. -/
structure ProviderSettings where
  id : String
  apiBase : String
  apiKey : String
  path : String
  model : String
  temperature : Binary64
  maxTokens : Nat := 512
  timeoutMs : Nat
  defaultHeaders : List (String × Json) := []

/-- How queries are run. -/
structure EngineSettings where
  /-- How many floats are fetched at a time. -/
  concurrency : Nat := 8
  queryTimeoutMs : Nat := 120000
  minAdvisoryChars : Nat := 20
  /-- Half the width in degrees of the box around a coordinate pair. -/
  boxHalfWidth : Binary64 := 5
deriving DecidableEq, Repr

/-- All settings of the program. -/
structure Settings where
  logLevel : String
  store : StoreSettings
  provider : Option ProviderSettings := none
  engine : EngineSettings := {}
  regions : List Region := []

/-- The built-in regions followed by the configured ones. -/
def Settings.gazetteer (settings : Settings) : Gazetteer :=
  { Gazetteer.builtin.withRegions settings.regions with halfWidth := settings.engine.boxHalfWidth }

end ArgoQuery
