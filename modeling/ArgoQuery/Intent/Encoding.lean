import ArgoQuery.Intent
import ArgoQuery.Json

/-!
# Intents as JSON

What is unknown is written as null; no field is ever left out.
-/

namespace ArgoQuery

namespace Geography

/-- A box is written bound by bound. -/
def GeoBox.toJson (box : GeoBox) : Json :=
  .object [("lat_min", .float box.latMin), ("lat_max", .float box.latMax),
    ("lon_min", .float box.lonMin), ("lon_max", .float box.lonMax)]

/-- A place is written with the text that named it. -/
def LocationMatch.toJson (location : LocationMatch) : Json :=
  .object [("bbox", location.box.toJson), ("label", .text location.label),
    ("matched", .text location.matched)]

end Geography

namespace Calendar

/-- A range is written by its two bounds. -/
def JulianRange.toJson (range : JulianRange) : Json :=
  .object [("julian_min", .float range.min), ("julian_max", .float range.max)]

/-- A hint is written with null for what it does not name. -/
def DateHint.toJson (hint : DateHint) : Json :=
  .object [("year", .ofOption .int hint.year), ("month", .ofOption .ofNat hint.month)]

end Calendar

/-- An intent is written with null for what stays open. -/
def Intent.toJson (intent : Intent) : Json :=
  .object [("location", .ofOption (·.toJson) intent.location),
    ("date", .ofOption (·.toJson) intent.date),
    ("date_range", .ofOption (·.toJson) intent.range)]

end ArgoQuery
