import ArgoQuery.Binary64.Rounding

/-!
# Boxes on the globe

A box has bounds in latitude and longitude and includes its edges. One whose western bound exceeds
its eastern bound reaches across the antimeridian: it holds the longitudes on either side of the
gap.
-/

namespace ArgoQuery.Geography

/-- Bounds of latitude and longitude, in degrees. -/
structure GeoBox where
  latMin : Binary64
  latMax : Binary64
  lonMin : Binary64
  lonMax : Binary64
deriving DecidableEq, Repr

namespace GeoBox

/-- The box that reaches equally far in all four directions. Its bounds are not brought back into
the range of latitudes and longitudes. -/
def around (lat lon halfWidth : Binary64) : GeoBox :=
  ⟨lat - halfWidth, lat + halfWidth, lon - halfWidth, lon + halfWidth⟩

/-- Whether a box reaches across the antimeridian: its western bound is then greater than its
eastern one. -/
def crossesAntimeridian (box : GeoBox) : Bool := decide (box.lonMax < box.lonMin)

/-- Whether a position lies in the box. A latitude is refused only for being out of bounds, so an
undefined one passes; a longitude has to be within bounds. -/
def contains (box : GeoBox) (lat lon : Binary64) : Bool :=
  if lat < box.latMin ∨ box.latMax < lat then false
  else if box.crossesAntimeridian then decide (box.lonMin ≤ lon ∨ lon ≤ box.lonMax)
  else decide (box.lonMin ≤ lon ∧ lon ≤ box.lonMax)

end GeoBox

end ArgoQuery.Geography
