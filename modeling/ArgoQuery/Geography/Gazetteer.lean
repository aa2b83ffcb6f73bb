import ArgoQuery.Geography.CoordinatePair
import ArgoQuery.Geography.GeoBox
import ArgoQuery.Text.LetterCase
import ArgoQuery.Text.Search

/-!
# Places mentioned in a text

A gazetteer is an ordered list of named regions. A text is located at the first region whose name
occurs in it, in lower case, and failing that at the first coordinate pair it mentions.
-/

namespace ArgoQuery.Geography

/-- A named region. The name is a lowercase phrase to look for in texts. -/
structure Region where
  name : String
  label : String
  box : GeoBox
deriving DecidableEq, Repr

/-- Where a text is located, and the words that say so. -/
structure LocationMatch where
  box : GeoBox
  label : String
  matched : String
deriving DecidableEq, Repr

/-- Named regions, the first to occur winning, and the half width in degrees of the box around a
coordinate pair. -/
structure Gazetteer where
  regions : List Region
  halfWidth : Binary64
deriving DecidableEq, Repr

/-- The regions that every gazetteer starts with. Their order matters: a text that names the Indian
Ocean names India first. -/
def builtinRegions : List Region :=
  [⟨"equator", "Near equator (±5°)", ⟨-5, 5, -180, 180⟩⟩,
    ⟨"india", "Indian region", ⟨8, 35, 68, 97⟩⟩,
    ⟨"indian ocean", "Indian Ocean", ⟨-40, 25, 40, 120⟩⟩,
    ⟨"arabian sea", "Arabian Sea", ⟨10, 25, 60, 75⟩⟩,
    ⟨"bay of bengal", "Bay of Bengal", ⟨5, 22, 80, 95⟩⟩,
    ⟨"africa", "African coast", ⟨-35, 37, -18, 52⟩⟩,
    ⟨"atlantic", "Atlantic Ocean", ⟨-60, 70, -80, 20⟩⟩,
    ⟨"pacific", "Pacific Ocean", ⟨-60, 60, 120, -70⟩⟩,
    ⟨"southern ocean", "Southern Ocean", ⟨-90, -60, -180, 180⟩⟩,
    ⟨"arctic", "Arctic region", ⟨66, 90, -180, 180⟩⟩,
    ⟨"mediterranean", "Mediterranean Sea", ⟨30, 46, -6, 37⟩⟩,
    ⟨"north atlantic", "North Atlantic", ⟨0, 70, -80, 20⟩⟩,
    ⟨"south atlantic", "South Atlantic", ⟨-60, 0, -70, 20⟩⟩]

namespace Gazetteer

/-- The regions that are always known, and boxes of five degrees to each side of a position. -/
def builtin : Gazetteer := ⟨builtinRegions, 5⟩

/-- The gazetteer with further regions, which come after its own. -/
def withRegions (gazetteer : Gazetteer) (regions : List Region) : Gazetteer :=
  { gazetteer with regions := gazetteer.regions ++ regions }

/-- The first region whose name occurs in the text, once the text is in lower case. -/
def regionIn? (gazetteer : Gazetteer) (text : String) : Option LocationMatch :=
  let lowered := Text.lowercase text
  (gazetteer.regions.find? fun region => Text.contains lowered region.name).map fun region =>
    ⟨region.box, region.label, region.name⟩

/-- The box around the first coordinate pair of the text. If that pair has no value, no later one
is tried. -/
def coordinatesIn? (gazetteer : Gazetteer) (text : String) : Option LocationMatch := do
  let pair ← CoordinatePair.firstIn? text.toList
  let (lat, lon) ← pair.degrees?
  return {
    box := GeoBox.around lat lon gazetteer.halfWidth
    label := "Near " ++ lat.plain ++ "°, " ++ lon.plain ++ "°"
    matched := String.ofList pair.matched }

/-- Where a text is located: a named region comes before any coordinates. -/
def locate? (gazetteer : Gazetteer) (text : String) : Option LocationMatch :=
  (gazetteer.regionIn? text).or (gazetteer.coordinatesIn? text)

end Gazetteer

end ArgoQuery.Geography
