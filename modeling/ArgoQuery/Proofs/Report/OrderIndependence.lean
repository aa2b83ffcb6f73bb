import ArgoQuery.Proofs.Report.Extremes
import ArgoQuery.Report
import Mathlib.Data.List.Find

/-!
# The order of the rows does not matter to a report

A store may give its rows in any order. A report counts the same in each, and what it takes from the
ends of a spread is the same up to the sign of a zero: `Report.ofRows_perm`. The centre is one of
these, and a region is named alike for positions that are alike. The means and the sentences that
mention them are left out, because sums are rounded as they are added up.
-/

namespace ArgoQuery

section Items

variable {Item : Type} [BEq Item] [LawfulBEq Item]

/-- Leaving out repetitions leaves none. -/
theorem nodup_eraseDups (items : List Item) : items.eraseDups.Nodup := by
  match items with
  | [] => exact List.nodup_nil
  | item :: rest =>
    rw [List.eraseDups_cons, List.nodup_cons]
    refine ⟨fun again => ?_, nodup_eraseDups _⟩
    have kept := (List.mem_filter.mp (List.mem_eraseDups.mp again)).2
    simp at kept
termination_by items.length
decreasing_by exact Nat.lt_succ_of_le (List.length_filter_le _ _)

/-- There are as many different items in any order. -/
theorem length_eraseDups_of_perm {items others : List Item} (perm : items.Perm others) :
    items.eraseDups.length = others.eraseDups.length := by
  refine List.Perm.length_eq ?_
  refine (List.perm_ext_iff_of_nodup (nodup_eraseDups _) (nodup_eraseDups _)).mpr fun item => ?_
  rw [List.mem_eraseDups, List.mem_eraseDups, perm.mem_iff]

end Items

section Related

variable {A A' B B' : Type} {before : A → A' → Prop} {after : B → B' → Prop} {value : Option A}
  {other : Option A'}

/-- Related values that are continued alike come to related results. -/
theorem rel_bind {next : A → Option B} {next' : A' → Option B'}
    (related : Option.Rel before value other)
    (image : ∀ {a a'}, before a a' → Option.Rel after (next a) (next' a')) :
    Option.Rel after (value.bind next) (other.bind next') := by
  cases related with
  | none => exact .none
  | some related => exact image related

/-- Related values have related images. -/
theorem rel_map {f : A → B} {f' : A' → B'} (related : Option.Rel before value other)
    (image : ∀ {a a'}, before a a' → after (f a) (f' a')) :
    Option.Rel after (value.map f) (other.map f') := by
  cases related with
  | none => exact .none
  | some related => exact .some (image related)

/-- Related values come to one result if the continuation does not tell them apart. -/
theorem bind_eq_of_rel {next : A → Option B} {next' : A' → Option B}
    (related : Option.Rel before value other) (image : ∀ {a a'}, before a a' → next a = next' a') :
    value.bind next = other.bind next' := by
  cases related with
  | none => rfl
  | some related => exact image related

end Related

/-- Whether two positions have like coordinates. -/
structure SamePlace (place other : Binary64 × Binary64) : Prop where
  lat : place.1.Alike other.1
  lon : place.2.Alike other.2

/-- The same region is named for the same place. -/
theorem Geography.regionName?_of_samePlace {place other : Binary64 × Binary64}
    (same : SamePlace place other) :
    regionName? place.1 place.2 = regionName? other.1 other.2 := by
  have admitted : ∀ rule ∈ regionRules,
      rule.admits place.1 place.2 = rule.admits other.1 other.2 := by
    simp only [regionRules, List.forall_mem_cons, same.lat.isWithin_eq, same.lon.isWithin_eq,
      same.lat.absolute.isWithin_eq]
    simp
  rw [regionName?, regionName?, List.find?_congr admitted]

namespace Report

/-- The order of some numbers does not matter to their middle. -/
theorem middle?_perm {numbers others : List Binary64} (perm : numbers.Perm others) :
    Option.Rel Binary64.Alike (middle? numbers) (middle? others) :=
  rel_map (Spread.ofNumbers?_perm perm) fun agrees => (agrees.min.add agrees.max).half

/-- The order of some positions does not matter to their centre. -/
theorem center?_perm {positions others : List (Binary64 × Binary64)}
    (perm : positions.Perm others) : Option.Rel SamePlace (center? positions) (center? others) :=
  rel_bind (middle?_perm (perm.map Prod.fst)) fun lat =>
    rel_bind (middle?_perm (perm.map Prod.snd)) fun lon => .some ⟨lat, lon⟩

/-- Whether two reports count the same, name the same region and have like numbers, except for their
means and what is said about them. -/
structure AgreesWith (report other : Report) : Prop where
  recordCount : report.recordCount = other.recordCount
  floatCount : report.floatCount = other.floatCount
  locationCount : report.locationCount = other.locationCount
  center : Option.Rel SamePlace report.center other.center
  region : report.region = other.region
  salinity : Option.Rel Spread.AgreesWith report.salinity other.salinity
  temperature : Option.Rel Spread.AgreesWith report.temperature other.temperature
  pressure : Option.Rel Spread.AgreesWith report.pressure other.pressure
  maxDepth : Option.Rel Binary64.Alike report.maxDepth other.maxDepth
  timeSpanDays : Option.Rel Binary64.Alike report.timeSpanDays other.timeSpanDays

section Rows

variable {rows others : List Row} (perm : rows.Perm others)

include perm

/-- The spread of a column agrees with that over the rows in another order. -/
theorem ofColumn?_perm (column : String) :
    Option.Rel Spread.AgreesWith (Spread.ofColumn? rows column) (Spread.ofColumn? others column) :=
  Spread.ofNumbers?_perm (perm.filterMap _)

/-- The order of the rows does not matter to a report.

Counts do not depend on an order, nor does the choice of a least or a greatest number, up to the
sign of a zero. What is made of them is made alike, field by field. -/
theorem ofRows_perm : (ofRows rows).AgreesWith (ofRows others) := by
  have positions : (rows.filterMap positionOf?).Perm (others.filterMap positionOf?) :=
    perm.filterMap _
  have center := center?_perm positions
  have pressure := ofColumn?_perm perm Column.pressure.name
  have days := ofColumn?_perm perm Column.julianDay.name
  exact {
    recordCount := perm.length_eq
    floatCount := length_eraseDups_of_perm (perm.filterMap _)
    locationCount := length_eraseDups_of_perm positions
    center
    region := bind_eq_of_rel center Geography.regionName?_of_samePlace
    salinity := ofColumn?_perm perm _
    temperature := ofColumn?_perm perm _
    pressure
    maxDepth := rel_map pressure Spread.AgreesWith.max
    timeSpanDays := rel_map days fun agrees => agrees.max.sub agrees.min }

end Rows

/-- A zero with a sign, one without and a quoted NaN, in both directions: the bits of the least
salinity and of the centre differ, and the reports agree. -/
theorem ofRows_zeros_and_nan :
    let row (salinity latitude : Value) : Row :=
      .ofList [("psal_adjusted", salinity), ("latitude", latitude), ("longitude", .int 70)]
    let rows := [row (.float 0) (.text "nan"), row (.float (-0)) (.float (-0)),
      row (.text " NaN ") (.float 0)]
    (ofRows rows).salinity.map Spread.min ≠ (ofRows rows.reverse).salinity.map Spread.min ∧
      (ofRows rows).center ≠ (ofRows rows.reverse).center ∧
      (ofRows rows).region = some "Indian Ocean" ∧ rows.Perm rows.reverse ∧
      (ofRows rows).AgreesWith (ofRows rows.reverse) := by
  intro row rows
  have perm : rows.Perm rows.reverse := (List.reverse_perm rows).symm
  exact ⟨by decide +kernel, by decide +kernel, by decide +kernel, perm, ofRows_perm perm⟩

end Report

end ArgoQuery
