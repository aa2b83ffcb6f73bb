import ArgoQuery.Descriptor.Column
import ArgoQuery.Geography.NamedRegion
import ArgoQuery.Report.Spread

/-!
# Reports

A report counts the rows of a result, their floats and their positions, gives the spread of what was
measured and says the same in sentences. The centre is the middle of the smallest box around all
positions, and it names the region.
-/

namespace ArgoQuery

/-- What is said about the rows of a result. -/
structure Report where
  recordCount : Nat
  floatCount : Nat
  /-- How many different positions there are. -/
  locationCount : Nat
  center : Option (Binary64 × Binary64)
  region : Option String
  salinity : Option Spread
  temperature : Option Spread
  pressure : Option Spread
  maxDepth : Option Binary64
  timeSpanDays : Option Binary64
  /-- What there is to say about the result. -/
  narrative : String
  /-- What there is to say about the question; nothing before it is known. -/
  context : List String
deriving DecidableEq, Repr

namespace Report

/-- The latitude and the longitude of a row that has both. -/
def positionOf? (row : Row) : Option (Binary64 × Binary64) := do
  return (← row.number? Column.latitude.name, ← row.number? Column.longitude.name)

/-- The middle between the smallest and the largest of some numbers. -/
def middle? (numbers : List Binary64) : Option Binary64 :=
  (Spread.ofNumbers? numbers).map fun spread => (spread.min + spread.max) / 2

/-- The middle of the smallest box around the positions. -/
def center? (positions : List (Binary64 × Binary64)) : Option (Binary64 × Binary64) := do
  return (← middle? (positions.map Prod.fst), ← middle? (positions.map Prod.snd))

/-- The remark that goes with the salinity. -/
def salinityRemark (mean : Binary64) : String :=
  if mean < 34 then " Lower than typical ocean salinity, suggesting freshwater influence."
  else if 36 < mean then " Higher than typical ocean salinity, suggesting strong evaporation."
  else ""

/-- What a mean temperature suggests. -/
def temperatureRemark (mean : Binary64) : String :=
  if 25 < mean then " Warm tropical or subtropical waters."
  else if mean < 10 then " Cold waters, typical of the deep ocean or polar regions."
  else ""

/-- What the greatest depth suggests. -/
def depthRemark (depth : Binary64) : String :=
  if 2000 < depth then " Deep profiles covering the full water column."
  else if 1000 < depth then " Profiles reach intermediate depths."
  else ""

/-- The spread of a variable in its unit. -/
def spreadSentence (name measure : String) (spread : Spread) : String :=
  "\n" ++ name ++ ": " ++ spread.min.fixed 2 ++ " to " ++ spread.max.fixed 2 ++ " " ++ measure ++
    " (avg " ++ spread.mean.fixed 2 ++ " " ++ measure ++ ")."

/-- The sentence about the salinity. -/
def salinitySentence (spread : Spread) : String :=
  spreadSentence "Salinity" "PSU" spread ++ salinityRemark spread.mean

/-- The sentence about the temperature. -/
def temperatureSentence (spread : Spread) : String :=
  spreadSentence "Temperature" "°C" spread ++ temperatureRemark spread.mean

/-- The sentence about the depth. -/
def depthSentence (depth : Binary64) : String :=
  "\nDepth: surface to " ++ depth.fixed 0 ++ " dbar." ++ depthRemark depth

/-- The time span in years or months; one of a month or less is not mentioned. -/
def timeSentence (days : Binary64) : String :=
  if 365 < days then "\nTime span: about " ++ (days / 365).fixed 1 ++ " years of data."
  else if 30 < days then "\nTime span: about " ++ (days / 30).fixed 1 ++ " months of data."
  else ""

/-- The sentence for something, or no sentence for nothing. -/
def sentenceFor {α : Type} (sentence : α → String) (value : Option α) : String :=
  (value.map sentence).getD ""

/-- What there is to say, sentence by sentence; what is missing from the report is left out. -/
def narrativeOf (report : Report) : String :=
  if report.recordCount = 0 then "No data found for your query."
  else
    "Found " ++ decimalText report.recordCount ++ " records from " ++
      decimalText report.floatCount ++ " float(s)" ++
      sentenceFor (" in the " ++ ·) report.region ++ "." ++
      sentenceFor salinitySentence report.salinity ++
      sentenceFor temperatureSentence report.temperature ++
      sentenceFor depthSentence report.maxDepth ++
      sentenceFor timeSentence report.timeSpanDays

/-- The report on some rows. -/
def ofRows (rows : List Row) : Report :=
  let positions := rows.filterMap positionOf?
  let center := center? positions
  let pressure := Spread.ofColumn? rows Column.pressure.name
  let report : Report := {
    recordCount := rows.length
    floatCount := (rows.filterMap (·.key? Column.floatId.name)).eraseDups.length
    locationCount := positions.eraseDups.length
    center
    region := center.bind fun (lat, lon) => Geography.regionName? lat lon
    salinity := Spread.ofColumn? rows Column.salinity.name
    temperature := Spread.ofColumn? rows Column.temperature.name
    pressure
    maxDepth := pressure.map Spread.max
    timeSpanDays :=
      (Spread.ofColumn? rows Column.julianDay.name).map fun days => days.max - days.min
    narrative := ""
    context := [] }
  { report with narrative := narrativeOf report }

end Report

end ArgoQuery
