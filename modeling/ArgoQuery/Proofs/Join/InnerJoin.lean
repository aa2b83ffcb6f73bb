import ArgoQuery.Proofs.Join.FloatPairs

/-!
# The join over a store in memory is the inner join

Main statement: `execute_inner_join`. On a store in memory without failures the rows of a join, if
it has any result, are those of the join by definition over the stored collections: every
measurement that the question is about, as often as it is stored, with the last position of its
cycle that the question is about, and nothing else.

A join has a result where the columns that rows are sorted by hold numbers only, or no numbers.
Otherwise sorting can notice that the comparison of rows contradicts itself, and then the program
stops: `join_stops_on_mixed_floats`.

The projection of a question says what a merged row looks like: the columns fetched of measurements
are followed by those of a position, so a position that is added to a measurement stands where the
projection wants it.
-/

namespace ArgoQuery.Join

open Calendar (JulianRange)
open Geography (GeoBox)

/-- The columns that a position adds to a measurement. -/
def positionNames : List String :=
  [Column.latitude.name, Column.longitude.name, Column.julianDay.name]

/-- What the row of a pair holds under a name: the position has the columns of positions, with null
where it has no value, and the measurement has the others. -/
def heldByPair (measurement position : Row) (name : String) : Option Value :=
  if name ∈ positionNames then some ((position.get? name).getD .null) else measurement.stored? name

/-- They are the columns of the side of positions. -/
theorem mem_positionNames (column : Column) :
    column.name ∈ positionNames ↔ column.side? = some .locations := by
  cases column <;> decide

/-- A pair as one row holds under every column what the pair holds under its name. -/
theorem joined_eq (projection : List Column) (measurement position : Row) :
    NestedLoop.joined projection (measurement, position) =
      ⟨Row.fieldsOf (heldByPair measurement position) (projection.map Column.name)⟩ := by
  rw [NestedLoop.joined, Row.fieldsOf, List.filterMap_map]
  refine congrArg Row.mk (List.filterMap_congr fun column _ => ?_)
  rw [Function.comp_apply, heldByPair]
  by_cases ofPosition : column.side? = some .locations
  · rw [if_pos ofPosition, if_pos ((mem_positionNames column).mpr ofPosition)]
    rfl
  · rw [if_neg ofPosition, if_neg (mt (mem_positionNames column).mp ofPosition)]

/-- The columns of a pair that belong to a position are those of the position. -/
theorem get?_joined {projection : List Column} {column : Column} (member : column ∈ projection)
    (ofPosition : column.side? = some .locations) (measurement position : Row) :
    (NestedLoop.joined projection (measurement, position)).get? column.name =
      position.get? column.name := by
  have held : heldByPair measurement position column.name =
      some ((position.get? column.name).getD .null) :=
    if_pos ((mem_positionNames column).mpr ofPosition)
  rw [joined_eq, Row.get?, Row.stored?_fieldsOf, if_pos (List.mem_map_of_mem member), held,
    Row.get?]
  cases position.stored? column.name with
  | none => rfl
  | some value => cases value <;> rfl

/-- The other columns of a pair are those of the measurement. -/
theorem get?_joined_of_measurement {projection : List Column} {column : Column}
    (member : column ∈ projection) (ofMeasurement : column.side? ≠ some .locations)
    (measurement position : Row) :
    (NestedLoop.joined projection (measurement, position)).get? column.name =
      measurement.get? column.name := by
  have held : heldByPair measurement position column.name = measurement.stored? column.name :=
    if_neg (mt (mem_positionNames column).mp ofMeasurement)
  rw [joined_eq, Row.get?, Row.stored?_fieldsOf, if_pos (List.mem_map_of_mem member), held,
    Row.get?]

/-- A position goes to the end of a row that has none of its columns. -/
theorem fields_onto (position : Position) {row : Row}
    (fresh : ∀ name ∈ positionNames, name ∉ row.fields.map Prod.fst) :
    (position.onto row).fields = row.fields ++
      [(Column.latitude.name, position.latitude), (Column.longitude.name, position.longitude),
        (Column.julianDay.name, position.julianDay)] := by
  obtain ⟨lat, lon, day, -⟩ := by
    simpa only [positionNames, List.forall_mem_cons] using fresh
  let first := row.insert Column.latitude.name position.latitude
  let second := first.insert Column.longitude.name position.longitude
  have firstFields : first.fields = row.fields ++ [(Column.latitude.name, position.latitude)] :=
    Row.fields_insert lat
  have secondFields : second.fields =
      first.fields ++ [(Column.longitude.name, position.longitude)] := by
    refine Row.fields_insert ?_
    rw [firstFields, List.map_append, List.mem_append, not_or]
    exact ⟨lon, by simp [Column.name]⟩
  have third : (second.insert Column.julianDay.name position.julianDay).fields =
      second.fields ++ [(Column.julianDay.name, position.julianDay)] := by
    refine Row.fields_insert ?_
    rw [secondFields, firstFields, List.map_append, List.map_append, List.mem_append,
      List.mem_append, not_or, not_or]
    exact ⟨⟨day, by simp [Column.name]⟩, by simp [Column.name]⟩
  rw [Position.onto, third, secondFields, firstFields, List.append_assoc, List.append_assoc]
  rfl

/-- A projection that keeps the columns of a position keeps the position. -/
theorem ofRow_project {names : List String} (kept : ∀ name ∈ positionNames, name ∈ names)
    (row : Row) : Position.ofRow (row.project names) = Position.ofRow row := by
  obtain ⟨lat, lon, day, -⟩ := by
    simpa only [positionNames, List.forall_mem_cons] using kept
  simp [Position.ofRow, lat, lon, day]

/-- A question fetches the columns of a position. -/
theorem position_columns (topic : Topic) {box : Option GeoBox}
    {range : Option JulianRange} :
    ∀ name ∈ positionNames,
      name ∈ columnNames (Descriptor.ofTopic topic box range) .locations := by
  have columns : columnNames (Descriptor.ofTopic topic box range) .locations =
      [Column.floatId.name, Column.cycleNumber.name] ++ positionNames := by
    cases topic <;> rfl
  intro name member
  rw [columns]
  exact List.mem_append_right _ member

/-- The columns of a question are those fetched of measurements, followed by those of a position. -/
theorem projection_ofTopic (topic : Topic) (box : Option GeoBox)
    (range : Option JulianRange) :
    (Descriptor.ofTopic topic box range).projection.map Column.name =
      columnNames (Descriptor.ofTopic topic box range) .measurements ++ positionNames := by
  cases topic <;> rfl

/-- No column of a question is projected twice. -/
theorem projection_nodup (topic : Topic) {box : Option GeoBox}
    {range : Option JulianRange} :
    ((Descriptor.ofTopic topic box range).projection.map Column.name).Nodup := by
  have concrete : ((Descriptor.ofTopic topic none none).projection.map Column.name).Nodup := by
    cases topic <;> decide
  exact concrete

/-- The merged row of a pair is the pair as one row with the columns of the question.

The position goes to the end of the projected measurement, so the fields follow the columns already
and are left where they are. -/
theorem combined_ofTopic (topic : Topic) (box : Option GeoBox)
    (range : Option JulianRange) :
    combined (Descriptor.ofTopic topic box range) =
      NestedLoop.joined (Descriptor.ofTopic topic box range).projection := by
  funext ⟨measurement, position⟩
  have columns := projection_ofTopic topic box range
  have distinct : (columnNames (Descriptor.ofTopic topic box range) .measurements ++
      positionNames).Nodup := by
    rw [← columns]
    exact projection_nodup topic
  obtain ⟨ofMeasurement, -, apart⟩ := List.nodup_append.mp distinct
  have position_eq : Position.ofRow (position.project
      (columnNames (Descriptor.ofTopic topic box range) .locations)) = Position.ofRow position :=
    ofRow_project (position_columns topic) position
  have measured := Row.fields_project measurement ofMeasurement
  have fresh : ∀ name ∈ positionNames, name ∉ (measurement.project
      (columnNames (Descriptor.ofTopic topic box range) .measurements)).fields.map Prod.fst := by
    intro name ofPosition member
    rw [measured] at member
    exact apart name ((Row.names_fieldsOf_sublist ..).subset member) name ofPosition rfl
  have fields := fields_onto (Position.ofRow position) fresh
  have held : (measurement.project
      (columnNames (Descriptor.ofTopic topic box range) .measurements)).fields ++
      [(Column.latitude.name, (Position.ofRow position).latitude),
        (Column.longitude.name, (Position.ofRow position).longitude),
        (Column.julianDay.name, (Position.ofRow position).julianDay)] =
      Row.fieldsOf (heldByPair measurement position)
        (columnNames (Descriptor.ofTopic topic box range) .measurements ++ positionNames) := by
    rw [Row.fieldsOf_append, measured]
    refine congrArg₂ (· ++ ·) (Row.fieldsOf_congr ?_) rfl
    intro name member
    rw [heldByPair, if_neg fun ofPosition => apart name member name ofPosition rfl]
  rw [combined, position_eq, joined_eq, Row.reorder, fields, held, columns,
    Row.reorderFields_fieldsOf _ distinct]

/-- The descriptor of a question is driven by the positions. -/
theorem drivenByPositions_ofTopic (topic : Topic) (box : Option GeoBox)
    (range : Option JulianRange) :
    DrivenByPositions (Descriptor.ofTopic topic box range) where
  driving := rfl
  dependent := rfl
  joinKey := rfl
  residuals side condition member residual := by
    have onSide : condition.column.side? = some side :=
      of_decide_eq_true (List.mem_filter.mp member).2
    cases side with
    | measurements =>
      rw [conditionsOn_ofTopic] at member
      obtain ⟨column, -, rfl⟩ := List.mem_map.mp member
      cases residual
    | locations =>
      cases column : condition.column <;> simp_all [Column.side?, Descriptor.columnsOf,
        Descriptor.ofTopic]

/-- The rows of a question are ordered by columns of measurements that it shows, and by no others
than the measurements of a store are sorted by. -/
theorem ordering_ofTopic (topic : Topic) (box : Option GeoBox) (range : Option JulianRange) :
    ∀ column ∈ (Descriptor.ofTopic topic box range).ordering,
      column ∈ (Descriptor.ofTopic topic box range).projection ∧
        column.side? ≠ some .locations ∧ column ∈ pagingOrder .measurements := by
  cases topic <;> simp [Descriptor.ofTopic, Column.side?, pagingOrder]

/-- A column of measurements that treats the stored ones alike treats the rows of all pairs
alike. -/
theorem isHomogeneous_pairs {keep : Side → Row → Bool} {projection : List Column}
    {positions measurements : List Row} {column : Column} (member : column ∈ projection)
    (ofMeasurement : column.side? ≠ some .locations)
    (homogeneous : Row.IsHomogeneous column.name measurements) :
    Row.IsHomogeneous column.name
      ((NestedLoop.pairs keep positions measurements).map (NestedLoop.joined projection)) := by
  have alike : ∀ row ∈ (NestedLoop.pairs keep positions measurements).map
      (NestedLoop.joined projection), ∃ measurement ∈ measurements,
        row.get? column.name = measurement.get? column.name := by
    intro row belongs
    obtain ⟨⟨measurement, position⟩, paired, rfl⟩ := List.mem_map.mp belongs
    obtain ⟨source, kept, isMatch⟩ := List.mem_filterMap.mp paired
    obtain ⟨key, -, rest⟩ := Option.bind_eq_some_iff.mp isMatch
    obtain ⟨last, -, made⟩ := Option.bind_eq_some_iff.mp rest
    obtain ⟨rfl, rfl⟩ := Prod.mk.inj (Option.some.inj made)
    exact ⟨source, (List.mem_filter.mp kept).1,
      get?_joined_of_measurement member ofMeasurement source last⟩
  rcases homogeneous with numbers | keys
  · left
    intro row belongs
    obtain ⟨measurement, stored, same⟩ := alike row belongs
    rw [Row.number?, Row.key?, same]
    exact numbers measurement stored
  · right
    intro row belongs
    obtain ⟨measurement, stored, same⟩ := alike row belongs
    rw [Row.number?, same]
    exact keys measurement stored

section Question

variable {collections : List (String × List Row)} {names : CollectionNames} {topic : Topic}
  {box : Option GeoBox} {range : Option JulianRange} {concurrency : Nat} {schedule : Schedule}

/-- The rows of an outcome are the pairs of the inner join over the positions that the driving
select finds, and it finds all that the question is about. -/
theorem rows_perm_of_join {outcome : Outcome}
    (success : (MemoryStore.join { collections } names concurrency schedule
      (Descriptor.ofTopic topic box range)).result = .ok outcome) :
    ∃ returned,
      MemoryStore.found? { collections } (drivingSelect names
        (Descriptor.ofTopic topic box range)) = some returned ∧
      (returned.filter (NestedLoop.wanted topic box range .locations)).Perm
        ((MemoryStore.rowsOf { collections } names.locations).filter
          (NestedLoop.wanted topic box range .locations)) ∧
      outcome.rows.Perm
        ((NestedLoop.pairs (NestedLoop.wanted topic box range) returned
          (MemoryStore.rowsOf { collections } names.measurements)).map
            (NestedLoop.joined (Descriptor.ofTopic topic box range).projection)) := by
  let store : MemoryStore := { collections }
  let descriptor := Descriptor.ofTopic topic box range
  have answers : ∀ select, store.toStore select = .ok (store.evaluate select) :=
    MemoryStore.toStore_ok collections
  have driven : DrivenByPositions descriptor := drivenByPositions_ofTopic topic box range
  have qualifying : qualifies descriptor = NestedLoop.wanted topic box range :=
    qualifies_ofTopic topic box range
  obtain ⟨result, drivingSorts, dependentSorts⟩ :=
    MemoryStore.joinAlong_ok (FetchWindow.trace_events concurrency schedule) success
  rw [MemoryStore.halts_ofCollections, Option.isNone_eq_false_iff] at drivingSorts
  simp only [MemoryStore.halts_ofCollections, Option.isNone_eq_false_iff] at dependentSorts
  have positions := keptPositions_perm driven drivingSorts
  obtain ⟨order, perm, ordered⟩ :=
    resultOf_of_executeAlong (FetchWindow.events_answered concurrency schedule) result
  have rows := (rows_perm_of_resultOf perm ordered).trans
    (flatMap_contribution_perm answers driven dependentSorts)
  obtain ⟨returned, found⟩ := Option.isSome_iff_exists.mp drivingSorts
  have same : store.found (drivingSelect names descriptor) = returned := by
    rw [MemoryStore.found, found, Option.getD_some]
  rw [keptPositions, qualifying, same] at positions
  rw [keptPositions, qualifying, same, combined_ofTopic] at rows
  exact ⟨returned, found, positions, rows⟩

/-- A join over an orderly store has a result: what the selects sort are stored rows, and the final
sort looks at columns of measurements only. -/
theorem isOk_join_of_isOrderly (orderly : MemoryStore.IsOrderly { collections } names) :
    ∃ outcome, (MemoryStore.join { collections } names concurrency schedule
      (Descriptor.ofTopic topic box range)).result = .ok outcome := by
  have answers : ∀ select, MemoryStore.toStore { collections } select = .ok _ :=
    MemoryStore.toStore_ok collections
  have driven : DrivenByPositions (Descriptor.ofTopic topic box range) :=
    drivenByPositions_ofTopic topic box range
  have merged : ((queried (MemoryStore.toStore { collections }) names
      (Descriptor.ofTopic topic box range)).flatMap _).Perm _ :=
    flatMap_contribution_perm answers driven fun float _ =>
      MemoryStore.isSome_found?_of_homogeneous (orderly _)
  rw [combined_ofTopic] at merged
  refine MemoryStore.isOk_join_of_homogeneous concurrency schedule orderly ?_
  intro name member
  obtain ⟨column, listed, rfl⟩ := List.mem_map.mp member
  obtain ⟨shown, ofMeasurement, sortedBy⟩ := ordering_ofTopic topic box range column listed
  exact (isHomogeneous_pairs shown ofMeasurement
    (orderly .measurements _ (List.mem_map_of_mem sortedBy))).perm merged.symm

end Question

/-- On a store in memory without failures, for every question, every number of concurrent fetches
and every order in which they end, the rows of a join are the pairs of the inner join, each as often
as its measurement is stored: a measurement that the question is about with the last position of its
key that the question is about, in the order in which the driving select returns them. That select
loses none of the stored positions that the question is about, and adds none.

Nothing but the order of rows can keep a join from its result, and over an orderly store it does
not.

The final sort only rearranges the rows that the floats contribute, and each float contributes the
pairs of its own measurements, so the pairs are found by an induction over the floats. -/
theorem execute_inner_join (collections : List (String × List Row)) (names : CollectionNames)
    (topic : Topic) (box : Option GeoBox) (range : Option JulianRange)
    (concurrency : Nat) (schedule : Schedule) :
    let store : MemoryStore := { collections }
    let descriptor := Descriptor.ofTopic topic box range
    let wanted := NestedLoop.wanted topic box range
    let result := (store.join names concurrency schedule descriptor).result
    (∀ outcome, result = .ok outcome →
      ∃ returned, store.found? (drivingSelect names descriptor) = some returned ∧
        (returned.filter (wanted .locations)).Perm
          ((store.rowsOf names.locations).filter (wanted .locations)) ∧
        outcome.rows.Perm
          ((NestedLoop.pairs wanted returned (store.rowsOf names.measurements)).map
            (NestedLoop.joined descriptor.projection))) ∧
      (∀ failure, result = .error failure → failure = .disorder) ∧
      (store.IsOrderly names → ∃ outcome, result = .ok outcome) := by
  intro store descriptor wanted result
  exact ⟨fun _ => rows_perm_of_join, fun _ => MemoryStore.failure_of_join, isOk_join_of_isOrderly⟩

/-- Two positions of one cycle, a measurement of it that is stored twice and one of another cycle.
The store is orderly, so there is a result, and it has both copies with the position that comes
last. -/
theorem execute_two_positions_of_cycle :
    let position (lat : Int64) : Row := .ofList [("float_id", .text "1"),
      ("cycle_number", .int 1), ("latitude", .int lat), ("longitude", .int 70)]
    let measurement (cycle : Int64) : Row := .ofList [("float_id", .text "1"),
      ("cycle_number", .int cycle), ("pres_adjusted", .int 5), ("psal_adjusted", .int 35)]
    let store : MemoryStore := { collections := [
      ("float_locations", [position 10, position 11]),
      ("float_measurements", [measurement 1, measurement 2, measurement 1])] }
    let descriptor := Descriptor.ofTopic .salinity none none
    let joined : Row := .ofList [("float_id", .text "1"), ("cycle_number", .int 1),
      ("pres_adjusted", .int 5), ("psal_adjusted", .int 35), ("latitude", .int 11),
      ("longitude", .int 70), ("juld", .null)]
    store.IsOrderly {} ∧
      ∃ outcome, (store.join {} 1 oldestFirst descriptor).result = .ok outcome ∧
        outcome.rows.Perm [joined, joined] := by
  intro position measurement store descriptor joined
  have orderly : store.IsOrderly {} := fun side => by cases side <;> decide +kernel
  obtain ⟨pairs, -, succeeds⟩ :=
    execute_inner_join store.collections {} .salinity none none 1 oldestFirst
  obtain ⟨outcome, success⟩ := succeeds orderly
  obtain ⟨returned, found, -, rows⟩ := pairs outcome success
  have both : store.found? (drivingSelect {} descriptor) = some [position 10, position 11] := by
    decide +kernel
  obtain rfl := Option.some.inj (found.symm.trans both)
  refine ⟨orderly, outcome, success, rows.trans (List.Perm.of_eq ?_)⟩
  decide +kernel

/-- Three measurements of each of seven floats, one of which has a name that is no number. As texts
10 comes before 2b and 2b before 3, but as numbers 3 comes before 10, so the final sort of the 21
rows finds that it contradicts itself, although the store can answer every select. -/
theorem join_stops_on_mixed_floats :
    let position (float : String) : Row := .ofList [("float_id", .text float),
      ("cycle_number", .int 1), ("latitude", .int 10), ("longitude", .int 70)]
    let measurement (float : String) (depth : Int64) : Row := .ofList [("float_id", .text float),
      ("cycle_number", .int 1), ("pres_adjusted", .int depth), ("psal_adjusted", .int 35)]
    let floats := ["10", "2", "2b", "3", "7", "8", "9"]
    let store : MemoryStore := { collections := [("float_locations", floats.map position),
      ("float_measurements", floats.flatMap fun float => [5, 10, 15].map (measurement float))] }
    let descriptor := Descriptor.ofTopic .salinity none none
    (execute store.toStore {} 1 oldestFirst descriptor).selects.any store.halts = false ∧
      (execute store.toStore {} 1 oldestFirst descriptor).result = .error .disorder ∧
      (store.join {} 1 oldestFirst descriptor).result = .error .disorder := by
  decide +kernel

end ArgoQuery.Join
