import ArgoQuery.Binary64.Rounding

/-!
# Names for positions

The first rule that a position meets names its region; seas come before oceans, and those before
bands of latitude. A position that meets none has no name.
-/

namespace ArgoQuery.Geography

/-- A name with the test that a position has to meet. -/
structure RegionRule where
  name : String
  admits : (lat lon : Binary64) → Bool

/-- The rules in the order in which they are tried. -/
def regionRules : List RegionRule :=
  [⟨"Arabian Sea", fun lat lon => lat.isWithin 10 25 && lon.isWithin 60 75⟩,
    ⟨"Bay of Bengal", fun lat lon => lat.isWithin 5 22 && lon.isWithin 80 95⟩,
    ⟨"Indian Ocean", fun lat lon => lat.isWithin (-40) 30 && lon.isWithin 40 120⟩,
    ⟨"Equatorial Region", fun lat _ => lat.isWithin (-5) 5⟩,
    ⟨"Tropical Region", fun lat _ => lat.isWithin (-23.5) 23.5⟩,
    ⟨"Subtropical Region", fun lat _ => lat.absolute.isWithin 23.5 40⟩]

/-- The name of the region that a position lies in. -/
def regionName? (lat lon : Binary64) : Option String :=
  (regionRules.find? fun rule => rule.admits lat lon).map RegionRule.name

end ArgoQuery.Geography
