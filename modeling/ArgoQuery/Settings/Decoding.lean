import ArgoQuery.Json.Record
import ArgoQuery.Settings

/-!
# Settings read from JSON

Every part of the settings is a record. Fields of other names say nothing, and a field that has a
default may be missing but not be null. Whole numbers are accepted as fractional ones; the
temperature of a provider has single precision.
-/

namespace ArgoQuery

open Geography (Region GeoBox)
open Json (RecordReader)

/-- The value of a field that has to be there. -/
def requireField? {α : Type} (fields : List (String × Json)) (name : String)
    (decode : Json → Option α) : Option α := do
  decode (← fields.lookup name)

/-- The value of a field, or its default if the field is missing. -/
def defaultField? {α : Type} (fields : List (String × Json)) (name : String) (default : α)
    (decode : Json → Option α) : Option α :=
  match fields.lookup name with
  | some json => decode json
  | none => some default

/-- Reads the names of the collections, each of which has a standard one. -/
def CollectionNames.ofJson? (record? : RecordReader) (json : Json) : Option CollectionNames := do
  let names := ["floats", "locations", "measurements"]
  let fields ← record? names names json
  let standard : CollectionNames := {}
  return {
    floats := ← defaultField? fields "floats" standard.floats Json.text?
    locations := ← defaultField? fields "locations" standard.locations Json.text?
    measurements := ← defaultField? fields "measurements" standard.measurements Json.text? }

/-- Reads the settings of the store. -/
def StoreSettings.ofJson? (record? : RecordReader) (json : Json) : Option StoreSettings := do
  let fields ← record?
    ["api_base", "api_key", "path", "timeout_ms", "page_size", "default_headers", "collections"]
    ["path", "page_size", "default_headers", "collections"] json
  return {
    apiBase := ← requireField? fields "api_base" Json.text?
    apiKey := ← requireField? fields "api_key" Json.text?
    path := ← defaultField? fields "path" "/rest/v1" Json.text?
    timeoutMs := ← requireField? fields "timeout_ms" (Json.unsigned? 64)
    pageSize := ← defaultField? fields "page_size" 1000 (Json.unsigned? 32)
    defaultHeaders := ← defaultField? fields "default_headers" [] Json.anyFields?
    collections := ← defaultField? fields "collections" {} (CollectionNames.ofJson? record?) }

/-- Reads the settings of the provider. The temperature has the precision of a single. -/
def ProviderSettings.ofJson? (record? : RecordReader) (json : Json) : Option ProviderSettings := do
  let fields ← record?
    ["provider_id", "api_base", "api_key", "path", "model", "temperature", "max_tokens",
      "timeout_ms", "default_headers"]
    ["max_tokens", "default_headers"] json
  return {
    id := ← requireField? fields "provider_id" Json.text?
    apiBase := ← requireField? fields "api_base" Json.text?
    apiKey := ← requireField? fields "api_key" Json.text?
    path := ← requireField? fields "path" Json.text?
    model := ← requireField? fields "model" Json.text?
    temperature := (← requireField? fields "temperature" Json.number?).single
    maxTokens := ← defaultField? fields "max_tokens" 512 (Json.unsigned? 32)
    timeoutMs := ← requireField? fields "timeout_ms" (Json.unsigned? 64)
    defaultHeaders := ← defaultField? fields "default_headers" [] Json.anyFields? }

/-- The provider, if there is one. -/
def providerOfJson? (record? : RecordReader) (json : Json) : Option (Option ProviderSettings) := do
  let fields ← record? ["llm"] [] json
  match fields.lookup "llm" with
  | none | some .null => return none
  | some provider => return some (← ProviderSettings.ofJson? record? provider)

/-- Reads the settings of queries, each of which has a standard. -/
def EngineSettings.ofJson? (record? : RecordReader) (json : Json) : Option EngineSettings := do
  let names := ["dependent_fetch_concurrency", "query_timeout_ms", "min_advisory_chars",
    "coordinate_box_half_width_deg"]
  let fields ← record? names names json
  let standard : EngineSettings := {}
  return {
    concurrency := ← defaultField? fields "dependent_fetch_concurrency" standard.concurrency
      (Json.unsigned? 32)
    queryTimeoutMs := ← defaultField? fields "query_timeout_ms" standard.queryTimeoutMs
      (Json.unsigned? 64)
    minAdvisoryChars := ← defaultField? fields "min_advisory_chars" standard.minAdvisoryChars
      (Json.unsigned? 32)
    boxHalfWidth := ← defaultField? fields "coordinate_box_half_width_deg" standard.boxHalfWidth
      Json.number? }

/-- Reads a region. -/
def regionOfJson? (record? : RecordReader) (json : Json) : Option Region := do
  let fields ← record? ["name", "label", "lat_min", "lat_max", "lon_min", "lon_max"] [] json
  let box : GeoBox := {
    latMin := ← requireField? fields "lat_min" Json.number?
    latMax := ← requireField? fields "lat_max" Json.number?
    lonMin := ← requireField? fields "lon_min" Json.number?
    lonMax := ← requireField? fields "lon_max" Json.number? }
  return ⟨← requireField? fields "name" Json.text?, ← requireField? fields "label" Json.text?, box⟩

/-- Reads the further regions of a gazetteer. -/
def regionsOfJson? (record? : RecordReader) (json : Json) : Option (List Region) := do
  let fields ← record? ["regions"] ["regions"] json
  defaultField? fields "regions" [] fun regions => do
    (← regions.items?).mapM (regionOfJson? record?)

/-- Reads settings. The reader of records says what may follow the last field in an array. -/
def Settings.ofJson? (record? : RecordReader) (json : Json) : Option Settings := do
  let fields ← record? ["service", "store", "providers", "engine", "gazetteer"]
    ["providers", "engine", "gazetteer"] json
  let service ← requireField? fields "service" (record? ["log_level"] [])
  return {
    logLevel := ← requireField? service "log_level" Json.text?
    store := ← requireField? fields "store" (StoreSettings.ofJson? record?)
    provider := ← defaultField? fields "providers" none (providerOfJson? record?)
    engine := ← defaultField? fields "engine" {} (EngineSettings.ofJson? record?)
    regions := ← defaultField? fields "gazetteer" [] (regionsOfJson? record?) }

end ArgoQuery
