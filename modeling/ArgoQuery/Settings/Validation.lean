import ArgoQuery.Binary64.Rounding
import ArgoQuery.Settings
import ArgoQuery.Text.Quoted

/-!
# Valid settings

Settings are checked in a fixed order and the first fault is reported. Names of regions have to be
such that a lowercase text can contain them.
-/

namespace ArgoQuery

open Geography (Region)

/-- What is wrong with settings. -/
inductive SettingsFault where
  | blank (field : String)
  | zero (field : String)
  | headerNotText (name : String)
  | temperatureNotFinite
  | temperatureOutOfRange
  | concurrencyOutOfRange
  | boxHalfWidthNotPositive
  | regionNameNotLowercase (name : String)
  | regionNotFinite (name : String)
  | regionLatitudeOutOfRange (name : String)
  | regionLatitudesReversed (name : String)
  | regionLongitudeOutOfRange (name : String)
deriving DecidableEq, Repr

/-- The most floats that may be fetched at a time. -/
def maxConcurrency : Nat := 64

/-- What a user is told of a setting that is not valid, by its path. -/
def SettingsFault.message : SettingsFault → String
  | blank field => field ++ " must be non-empty."
  | zero field => field ++ " must be greater than zero."
  | headerNotText name => "store.default_headers." ++ name ++ " must be a string."
  | temperatureNotFinite => "providers.llm.temperature must be a finite number."
  | temperatureOutOfRange => "providers.llm.temperature must be in the range 0.0-2.0."
  | concurrencyOutOfRange =>
    "engine.dependent_fetch_concurrency must be in the range 1-" ++ decimalText maxConcurrency ++
      "."
  | boxHalfWidthNotPositive =>
    "engine.coordinate_box_half_width_deg must be a finite positive number."
  | regionNameNotLowercase name =>
    "gazetteer region " ++ Text.quoted name ++ " must be trimmed lowercase text."
  | regionNotFinite name =>
    "gazetteer region " ++ Text.quoted name ++ " bounds must be finite numbers."
  | regionLatitudeOutOfRange name =>
    "gazetteer region " ++ Text.quoted name ++ " latitudes must be within -90..90."
  | regionLatitudesReversed name =>
    "gazetteer region " ++ Text.quoted name ++ " lat_min must not exceed lat_max."
  | regionLongitudeOutOfRange name =>
    "gazetteer region " ++ Text.quoted name ++ " longitudes must be within -180..180."

/-- A fault with whether it is there. -/
structure Check where
  fails : Bool
  fault : SettingsFault

/-- A text must not be blank. -/
def checkBlank (field value : String) : Check := ⟨Text.isBlankText value, .blank field⟩

/-- A number must not be zero. -/
def checkZero (field : String) (value : Nat) : Check := ⟨value == 0, .zero field⟩

/-- What the settings of the store must not be, in the order in which they are looked at. -/
def StoreSettings.checks (store : StoreSettings) : List Check :=
  [checkBlank "store.api_base" store.apiBase,
    checkBlank "store.api_key" store.apiKey,
    checkZero "store.timeout_ms" store.timeoutMs,
    checkZero "store.page_size" store.pageSize,
    checkBlank "store.collections.floats" store.collections.floats,
    checkBlank "store.collections.locations" store.collections.locations,
    checkBlank "store.collections.measurements" store.collections.measurements] ++
  store.defaultHeaders.map fun (name, value) => ⟨!value.isText, .headerNotText name⟩

/-- What the settings of the provider must not be. -/
def ProviderSettings.checks (provider : ProviderSettings) : List Check :=
  [checkBlank "providers.llm.api_base" provider.apiBase,
    checkBlank "providers.llm.api_key" provider.apiKey,
    checkBlank "providers.llm.model" provider.model,
    ⟨!provider.temperature.isFinite, .temperatureNotFinite⟩,
    ⟨!provider.temperature.isWithin 0 2, .temperatureOutOfRange⟩,
    checkZero "providers.llm.max_tokens" provider.maxTokens,
    checkZero "providers.llm.timeout_ms" provider.timeoutMs]

/-- What the settings of queries must not be. -/
def EngineSettings.checks (engine : EngineSettings) : List Check :=
  [⟨engine.concurrency == 0 || decide (maxConcurrency < engine.concurrency),
      .concurrencyOutOfRange⟩,
    checkZero "engine.query_timeout_ms" engine.queryTimeoutMs,
    checkZero "engine.min_advisory_chars" engine.minAdvisoryChars,
    ⟨!engine.boxHalfWidth.isFinite || decide (engine.boxHalfWidth ≤ 0),
      .boxHalfWidthNotPositive⟩]

/-- Whether a name can be found in lowercase texts and has no white space around it. -/
def isRegionName (name : String) : Bool := Text.trim name == name && Text.lowercase name == name

/-- What a region must not be. Longitudes may be in either order, for a box across the antimeridian.
-/
def regionChecks (region : Region) : List Check :=
  let name := region.name
  let box := region.box
  [checkBlank "gazetteer.regions.name" name,
    ⟨!isRegionName name, .regionNameNotLowercase name⟩,
    ⟨[box.latMin, box.latMax, box.lonMin, box.lonMax].any fun bound => !bound.isFinite,
      .regionNotFinite name⟩,
    ⟨[box.latMin, box.latMax].any fun bound => !bound.isWithin (-90) 90,
      .regionLatitudeOutOfRange name⟩,
    ⟨decide (box.latMax < box.latMin), .regionLatitudesReversed name⟩,
    ⟨[box.lonMin, box.lonMax].any fun bound => !bound.isWithin (-180) 180,
      .regionLongitudeOutOfRange name⟩]

namespace Settings

/-- All checks in their order. -/
def checks (settings : Settings) : List Check :=
  [checkBlank "service.log_level" settings.logLevel] ++ settings.store.checks ++
    settings.provider.toList.flatMap ProviderSettings.checks ++ settings.engine.checks ++
    settings.regions.flatMap regionChecks

/-- The first fault, if there is any. -/
def fault? (settings : Settings) : Option SettingsFault :=
  (settings.checks.find? Check.fails).map Check.fault

/-- Valid settings pass every check. -/
theorem passes_of_valid {settings : Settings} (valid : settings.fault? = none) {check : Check}
    (listed : check ∈ settings.checks) : check.fails = false := by
  rw [fault?, Option.map_eq_none_iff, List.find?_eq_none] at valid
  exact Bool.not_eq_true _ ▸ valid check listed

end Settings

end ArgoQuery
