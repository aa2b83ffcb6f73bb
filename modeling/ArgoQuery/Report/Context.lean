import ArgoQuery.Report
import ArgoQuery.Text.LetterCase
import ArgoQuery.Text.Search

/-!
# Background notes

A report gains notes from the question: what the result is good for, how deep it reaches, and what
is worth knowing about the variables and regions that the question names. A report without rows
gains none.
-/

namespace ArgoQuery.Report

/-- Notes on what a question names, each with the words that call for it. -/
def keywordNotes : List (List String × String) :=
  [(["salinity"],
      "Salinity is reported in PSU. Typical ocean values are 34 to 36 PSU and follow " ++
        "evaporation, precipitation and freshwater input."),
    (["temperature"],
      "Temperature is reported in °C. Surface values range from about -2 °C near the poles " ++
        "to 30 °C in the tropics."),
    (["arabian sea", "bay of bengal"],
      "This region is monsoon driven, with strong seasonal swings in temperature and salinity."),
    (["equator"],
      "Equatorial waters vary little by season, but upwelling can bring cold, nutrient-rich " ++
        "water to the surface.")]

/-- The names of the variables that the result has numbers for. -/
def measuredNames (report : Report) : List String :=
  (report.salinity.map fun _ => "salinity").toList ++
    (report.temperature.map fun _ => "temperature").toList

/-- What there is to note about the measured variables. -/
def variableNotes (report : Report) : List String :=
  if report.measuredNames.isEmpty then []
  else ["The result contains " ++ " and ".intercalate report.measuredNames ++
    " measurements usable as depth profiles."]

/-- What there is to note about the depth of the profiles. -/
def depthNotes (report : Report) : List String :=
  match report.maxDepth with
  | none => []
  | some depth =>
    if 2000 < depth then ["The profiles span the full water column, down into the deep layers."]
    else if 1000 < depth then
      ["The profiles reach intermediate layers, including the main thermocline."]
    else if 0 < depth then
      ["The profiles focus on the upper ocean, where air-sea exchange dominates."]
    else []

/-- The notes on what a question names, found in its lower case. -/
def questionNotes (question : String) : List String :=
  let lowered := Text.lowercase question
  (keywordNotes.filter fun (words, _) => words.any (Text.contains lowered)).map Prod.snd

/-- The report with the notes that the question calls for. -/
def withContext (report : Report) (question : String) : Report :=
  if report.recordCount = 0 then report
  else
    { report with
      context := report.variableNotes ++ report.depthNotes ++ questionNotes question }

end ArgoQuery.Report
