import ArgoQuery.Geography.Gazetteer
import ArgoQuery.Proofs.Binary64.Middles
import ArgoQuery.Proofs.Descriptor.PositionConditions
import ArgoQuery.Proofs.Report.Extremes
import ArgoQuery.Report

/-!
# Where the centre of a result lies

The centre of a report is the middle of the smallest box around all positions, taken in numbers. If
the positions come from a box, so does its latitude. The centre itself lies in that box if the box
does not cross the antimeridian or all positions are on one side of it: `center_of_contained`.

Nothing more is promised of a box across the antimeridian. Its longitudes are the greatest and the
least ones, and the middle between those of both kinds is the middle of what the box leaves out:
`center_leaves_box`.
-/

namespace ArgoQuery

/-- Whether a number lies on the side of a bound on which all of some numbers lie. A bound is one
whose double is finite. -/
structure IsAmid (numbers : List Binary64) (x : Binary64) : Prop where
  above : ∀ bound : Binary64, bound.HasDouble → (∀ number ∈ numbers, bound ≤ number) → bound ≤ x
  below : ∀ bound : Binary64, bound.HasDouble → (∀ number ∈ numbers, number ≤ bound) → x ≤ bound

namespace Report

/-- The middle of finite numbers is amid them. -/
theorem middle?_isAmid {numbers : List Binary64} (nonempty : numbers ≠ [])
    (finite : ∀ number ∈ numbers, number.isFinite = true) :
    ∃ middle, middle? numbers = some middle ∧ IsAmid numbers middle := by
  obtain ⟨spread, found, ⟨least, -⟩, ⟨most, -⟩, -⟩ := Spread.exists_of_ne_nil nonempty
  refine ⟨(spread.min + spread.max) / 2, by rw [middle?, found, Option.map_some], ?_⟩
  constructor
  case above =>
    intro bound double below
    exact Binary64.le_middle (finite _ least) (finite _ most) double (below _ least)
      (below _ most)
  case below =>
    intro bound double above
    exact Binary64.middle_le (finite _ least) (finite _ most) double (above _ least)
      (above _ most)

/-- Both coordinates of the centre are amid those of the positions. -/
theorem center?_isAmid {positions : List (Binary64 × Binary64)} (located : positions ≠ [])
    (finite : ∀ position ∈ positions, position.1.isFinite = true ∧ position.2.isFinite = true) :
    ∃ lat lon, center? positions = some (lat, lon) ∧ IsAmid (positions.map Prod.fst) lat ∧
      IsAmid (positions.map Prod.snd) lon := by
  have nonempty {part : Binary64 × Binary64 → Binary64} : positions.map part ≠ [] :=
    List.map_eq_nil_iff.not.mpr located
  obtain ⟨lat, middle, latitude⟩ := middle?_isAmid nonempty
    (List.forall_mem_map.mpr fun position listed => (finite position listed).1)
  obtain ⟨lon, middle', longitude⟩ := middle?_isAmid nonempty
    (List.forall_mem_map.mpr fun position listed => (finite position listed).2)
  refine ⟨lat, lon, ?_, latitude, longitude⟩
  rw [center?, middle, middle']
  rfl

end Report

namespace Geography.GeoBox

/-- Whether the bounds of a box are latitudes and longitudes. -/
structure IsOnGlobe (box : GeoBox) : Prop where
  latMin : box.latMin.isWithin (-90) 90 = true
  latMax : box.latMax.isWithin (-90) 90 = true
  lonMin : box.lonMin.isWithin (-180) 180 = true
  lonMax : box.lonMax.isWithin (-180) 180 = true

namespace IsOnGlobe

variable {box : GeoBox} (globe : box.IsOnGlobe)

include globe

/-- Twice a bound of a box on the globe is finite. -/
theorem hasDouble_bound {bound : Binary64}
    (listed : bound ∈ [box.latMin, box.latMax, box.lonMin, box.lonMax]) : bound.HasDouble := by
  have latitude {number : Binary64} (within : number.isWithin (-90) 90 = true) :
      number.HasDouble := .of_isWithin (by decide +kernel) within
  have longitude {number : Binary64} (within : number.isWithin (-180) 180 = true) :
      number.HasDouble := .of_isWithin (by decide +kernel) within
  simp only [List.mem_cons, List.not_mem_nil, or_false] at listed
  obtain rfl | rfl | rfl | rfl := listed
  · exact latitude globe.latMin
  · exact latitude globe.latMax
  · exact longitude globe.lonMin
  · exact longitude globe.lonMax

/-- A box on the globe compares every latitude. -/
theorem comparesLatitude {lat : Binary64} (finite : lat.isFinite = true) :
    box.comparesLatitude lat = true := by
  have least : box.latMin.HasDouble := globe.hasDouble_bound (by simp)
  have greatest : box.latMax.HasDouble := globe.hasDouble_bound (by simp)
  rw [GeoBox.comparesLatitude, Binary64.isNaN_eq_false finite, Binary64.isNaN_eq_false least.1,
    Binary64.isNaN_eq_false greatest.1]
  rfl

end IsOnGlobe

/-- Whether all of some positions are on the same side of the antimeridian, as far as a box reaches
across it. -/
def SeesOneSide (box : GeoBox) (positions : List (Binary64 × Binary64)) : Prop :=
  box.crossesAntimeridian = false ∨ (∀ position ∈ positions, box.lonMin ≤ position.2) ∨
    ∀ position ∈ positions, position.2 ≤ box.lonMax

section Amid

variable {box : GeoBox} (globe : box.IsOnGlobe) {positions : List (Binary64 × Binary64)}
  (contained : ∀ position ∈ positions, position.1.isFinite = true ∧ position.2.isFinite = true ∧
    box.contains position.1 position.2 = true)
  {lat lon : Binary64} (latitude : IsAmid (positions.map Prod.fst) lat)
  (longitude : IsAmid (positions.map Prod.snd) lon)

include globe contained

/-- What the positions in a box are within. -/
theorem bounds_of_contained {position : Binary64 × Binary64} (listed : position ∈ positions) :
    (box.latMin ≤ position.1 ∧ position.1 ≤ box.latMax) ∧
      if box.crossesAntimeridian then box.lonMin ≤ position.2 ∨ position.2 ≤ box.lonMax
      else box.lonMin ≤ position.2 ∧ position.2 ≤ box.lonMax := by
  obtain ⟨finite, -, inside⟩ := contained position listed
  exact (box.contains_and_comparesLatitude_iff _ _).mp ⟨inside, globe.comparesLatitude finite⟩

include latitude

/-- A latitude amid those of the positions in a box is one of the box. -/
theorem latitude_of_isAmid : box.latMin ≤ lat ∧ lat ≤ box.latMax := by
  constructor
  · refine latitude.above _ (globe.hasDouble_bound (by simp)) (List.forall_mem_map.mpr ?_)
    exact fun position listed => (bounds_of_contained globe contained listed).1.1
  · refine latitude.below _ (globe.hasDouble_bound (by simp)) (List.forall_mem_map.mpr ?_)
    exact fun position listed => (bounds_of_contained globe contained listed).1.2

include longitude

/-- What is amid the positions in a box is in it, unless they are on both sides of the
antimeridian. -/
theorem contains_of_isAmid (side : box.SeesOneSide positions) : box.contains lat lon = true := by
  have east (onEast : ∀ position ∈ positions, box.lonMin ≤ position.2) : box.lonMin ≤ lon :=
    longitude.above _ (globe.hasDouble_bound (by simp)) (List.forall_mem_map.mpr onEast)
  have west (onWest : ∀ position ∈ positions, position.2 ≤ box.lonMax) : lon ≤ box.lonMax :=
    longitude.below _ (globe.hasDouble_bound (by simp)) (List.forall_mem_map.mpr onWest)
  have bounds {position} (listed : position ∈ positions) :=
    (bounds_of_contained globe contained listed).2
  refine ((box.contains_and_comparesLatitude_iff lat lon).mpr
    ⟨latitude_of_isAmid globe contained latitude, ?_⟩).1
  cases crosses : box.crossesAntimeridian with
  | false =>
    simp only [crosses, Bool.false_eq_true, if_false] at bounds ⊢
    constructor
    · exact east fun position listed => (bounds listed).1
    · exact west fun position listed => (bounds listed).2
  | true =>
    rw [if_pos rfl]
    rcases side with uncrossed | onEast | onWest
    · exact absurd (uncrossed.symm.trans crosses) Bool.false_ne_true
    · exact .inl (east onEast)
    · exact .inr (west onWest)

end Amid

end Geography.GeoBox

namespace Report

open Geography (GeoBox regionName?)

/-- If all positions of a report lie in a box on the globe, then so does the latitude of their
centre, and the centre itself does if the box does not cross the antimeridian or they are on one
side of it.

The centre is amid the positions, that is, beyond all of them in neither coordinate, and what is
amid some positions is on the same side of a bound as all of them. -/
theorem center_of_contained {box : GeoBox} (globe : box.IsOnGlobe) {rows : List Row}
    (located : rows.filterMap positionOf? ≠ [])
    (contained : ∀ position ∈ rows.filterMap positionOf?,
      position.1.isFinite = true ∧ position.2.isFinite = true ∧
        box.contains position.1 position.2 = true) :
    ∃ lat lon, (ofRows rows).center = some (lat, lon) ∧
      (ofRows rows).region = regionName? lat lon ∧
      (box.latMin ≤ lat ∧ lat ≤ box.latMax) ∧
      (box.SeesOneSide (rows.filterMap positionOf?) → box.contains lat lon = true) := by
  obtain ⟨lat, lon, found, latitude, longitude⟩ := center?_isAmid located
    fun position listed => (contained position listed).imp_right And.left
  have center : (ofRows rows).center = some (lat, lon) := found
  have region : (ofRows rows).region =
      (ofRows rows).center.bind fun place => regionName? place.1 place.2 := rfl
  refine ⟨lat, lon, center, ?_, ?_, ?_⟩
  · rw [region, center, Option.bind_some]
  · exact GeoBox.latitude_of_isAmid globe contained latitude
  · exact GeoBox.contains_of_isAmid globe contained latitude longitude

/-- The region that is named after the Pacific reaches across the antimeridian. -/
def pacific : GeoBox := ⟨-60, 60, 120, -70⟩

/-- Two positions in the east of the Pacific have their centre there too. -/
theorem center_of_eastern_pacific :
    let row (lat lon : Int64) : Row := .ofList [("latitude", .int lat), ("longitude", .int lon)]
    let rows := [row 0 (-120), row 10 (-80)]
    rows.filterMap positionOf? = [(0, -120), (10, -80)] ∧
      pacific.crossesAntimeridian = true ∧ pacific.contains 0 (-120) = true ∧
      pacific.contains 10 (-80) = true ∧
      ∃ lat lon, (ofRows rows).center = some (lat, lon) ∧ pacific.contains lat lon = true := by
  intro row rows
  have positions : rows.filterMap positionOf? = [(0, -120), (10, -80)] := by decide +kernel
  have globe : pacific.IsOnGlobe :=
    ⟨by decide +kernel, by decide +kernel, by decide +kernel, by decide +kernel⟩
  have contained : ∀ position ∈ rows.filterMap positionOf?,
      position.1.isFinite = true ∧ position.2.isFinite = true ∧
        pacific.contains position.1 position.2 = true := by
    decide +kernel
  have onWest : ∀ position ∈ rows.filterMap positionOf?, position.2 ≤ pacific.lonMax := by
    decide +kernel
  obtain ⟨lat, lon, center, -, -, inside⟩ := center_of_contained globe
    (positions ▸ List.cons_ne_nil _ _) contained
  exact ⟨positions, by decide +kernel, by decide +kernel, by decide +kernel, lat, lon, center,
    inside (.inr (.inr onWest))⟩

/-- The middle between two longitudes of the Pacific on both sides of the antimeridian is not one of
the Pacific, and the report names the Indian Ocean. -/
theorem center_leaves_box :
    let row (lat lon : Int64) : Row := .ofList [("latitude", .int lat), ("longitude", .int lon)]
    let rows := [row 0 170, row 0 (-80)]
    Geography.Gazetteer.builtin.regionIn? "salinity in the pacific" =
        some ⟨pacific, "Pacific Ocean", "pacific"⟩ ∧
      rows.filterMap positionOf? = [(0, 170), (0, -80)] ∧
      pacific.contains 0 170 = true ∧ pacific.contains 0 (-80) = true ∧
      (ofRows rows).center = some (0, 45) ∧ pacific.contains 0 45 = false ∧
      (ofRows rows).region = some "Indian Ocean" := by
  decide +kernel

end Report

end ArgoQuery
