import ArgoQuery.Proofs.Join.InnerJoin
import ArgoQuery.Proofs.Join.Statistics

/-!
# Where the rows of a join come from

Main statement: `executeAlong_rows_origins`. Whatever a store answers, each row of a result is a
measurement that came in the reply to the fetch of one float, at the last kept position of that
float and of the row's own cycle.

The float of the position is the one that was asked for. It is the float of the row exactly if the
store answered the fetch with a row of the float. A store that does not can have a row placed at the
position of another float: `execute_misplaces_row`.
-/

namespace ArgoQuery.Join

namespace Position

/-- A position leaves alone what a row holds under other names. -/
theorem key?_onto (position : Position) (row : Row) {column : Column}
    (other : column.side? ≠ some .locations) :
    (position.onto row).key? column.name = row.key? column.name := by
  have apart : column.name ∉ positionNames := mt (mem_positionNames column).mp other
  obtain ⟨lat, lon, day, -⟩ := by
    simpa only [positionNames, List.mem_cons, not_or] using apart
  simp [Row.key?, onto, lat, lon, day]

/-- A row with a position has the values of the position, and no value where it has none. -/
theorem get?_onto (source row : Row) {column : Column}
    (ofPosition : column.side? = some .locations) :
    ((ofRow source).onto row).get? column.name = source.get? column.name := by
  have held : (some ((source.get? column.name).getD .null)).filter (fun value => !value.isNull) =
      source.get? column.name := by
    rw [Row.get?]
    cases source.stored? column.name with
    | none => rfl
    | some value => cases value <;> rfl
  rw [onto, ← held]
  cases column with
  | latitude | longitude | julianDay => simp [Column.name, ofRow]
  | floatId | cycleNumber | pressure | temperature | salinity => cases ofPosition

end Position

/-- A row that a reply brings is one of the rows that it was answered with. -/
theorem Reply.exists_of_mem_fetched {reply : Reply} {row : Row} (member : row ∈ reply.fetched) :
    ∃ rows, reply.answer = .ok rows ∧ row ∈ rows := by
  rw [fetched] at member
  cases answer : reply.answer with
  | error cause => simp [answer] at member
  | ok rows => exact ⟨rows, rfl, by simpa [answer] using member⟩

/-- A merged row is made of a row of the reply that passes the residual conditions and of the last
position of the float that was asked for and of the row's own cycle. -/
theorem Reply.exists_pair_of_merged {descriptor : Descriptor} {index : KeyIndex}
    {rows : List Row} (indexed : index.Indexes rows) {reply : Reply} {row : Row}
    (member : row ∈ reply.merged descriptor index) :
    ∃ measurement ∈ reply.fetched, ∃ (cycle : String) (position : Row),
      CycleKey.last? ⟨reply.float, cycle⟩ rows = some position ∧
      measurement.key? Column.cycleNumber.name = some cycle ∧
      survives descriptor descriptor.dependent measurement = true ∧
      row = ((Position.ofRow position).onto measurement).reorder
        (descriptor.projection.map Column.name) := by
  obtain ⟨measurement, isRetained, merges⟩ := List.mem_filterMap.mp member
  obtain ⟨cycle, known, own⟩ := exists_cycle_of_retained isRetained
  obtain ⟨found, placed⟩ := Option.isSome_iff_exists.mp (indexed.mem_cyclesOf.mp known)
  obtain ⟨position, last, rfl⟩ := Option.map_eq_some_iff.mp (indexed.positions _ ▸ placed)
  have survivor := List.mem_filter.mp (List.mem_filter.mp isRetained).1
  refine ⟨measurement, survivor.1, cycle, position, last, own, survivor.2, ?_⟩
  simpa [merge?, own, placed] using merges.symm

/-- A merged row is a row of the reply at the last position of the float that was asked for and of
the row's own cycle. -/
theorem Reply.exists_origin_of_merged {descriptor : Descriptor} {index : KeyIndex}
    {rows : List Row} (indexed : index.Indexes rows) {reply : Reply} {row : Row}
    (member : row ∈ reply.merged descriptor index) :
    ∃ measurement ∈ reply.fetched, ∃ (cycle : String) (position : Row),
      CycleKey.last? ⟨reply.float, cycle⟩ rows = some position ∧
      row.key? Column.cycleNumber.name = some cycle ∧
      row.key? Column.floatId.name = measurement.key? Column.floatId.name ∧
      ∀ column, Column.side? column = some .locations →
        row.get? column.name = position.get? column.name := by
  obtain ⟨measurement, fetched, cycle, position, last, own, -, rfl⟩ :=
    exists_pair_of_merged indexed member
  refine ⟨measurement, fetched, cycle, position, last, ?_, ?_, ?_⟩
  · rw [Row.key?_reorder, Position.key?_onto _ _ (by decide), own]
  · rw [Row.key?_reorder, Position.key?_onto _ _ (by decide)]
  · intro column ofPosition
    rw [Row.get?_reorder, Position.get?_onto _ _ ofPosition]

/-- Whatever the store answers, and in whichever order, each row of a result is made of a row that
the store returned to the fetch of a float. It has a cycle, and it is placed at the last kept row of
that float and that cycle: the index has a position under this key, and the row has the latitude,
longitude and day of it.

The key is the row's own exactly if the store answered the fetch with a row of the float.

A row comes from the reply to one float, whose retained rows are merged with what the index has
under their cycles, and the index keeps the last row of each key. -/
theorem executeAlong_rows_origins (store : Store) (names : CollectionNames)
    (descriptor : Descriptor) (concurrency : Nat)
    (fetching : List String → List (FetchEvent String))
    (buffered : ∀ floats, FetchWindow.Trace (max 1 concurrency) ⟨floats, []⟩ (fetching floats))
    (outcome : Outcome)
    (success : (executeAlong fetching store names descriptor).result = .ok outcome) :
    ∀ row ∈ outcome.rows, ∃ (key : CycleKey) (position measurement : Row) (fetched : List Row),
      store (dependentSelect names descriptor key.float) = .ok fetched ∧
      measurement ∈ fetched ∧
      ((indexOf store names descriptor).position? key).isSome = true ∧
      key.last? (keptRows store names descriptor) = some position ∧
      row.key? Column.cycleNumber.name = some key.cycle ∧
      (∀ column, Column.side? column = some .locations →
        row.get? column.name = position.get? column.name) ∧
      row.key? Column.floatId.name = measurement.key? Column.floatId.name ∧
      (CycleKey.ofRow? row = some key ↔
        measurement.key? Column.floatId.name = some key.float) := by
  intro row member
  obtain ⟨order, perm, result⟩ :=
    resultOf_of_executeAlong (fun floats => (buffered floats).answered_perm) success
  have merged := (rows_perm_of_resultOf perm result).mem_iff.mp member
  obtain ⟨float, -, contributed⟩ := List.mem_flatMap.mp merged
  obtain ⟨measurement, answered, cycle, position, last, ownCycle, ownFloat, placed⟩ :=
    Reply.exists_origin_of_merged indexes_indexOf contributed
  obtain ⟨fetched, answer, returned⟩ := Reply.exists_of_mem_fetched answered
  have indexed : ((indexOf store names descriptor).position? ⟨float, cycle⟩).isSome = true := by
    rw [indexes_indexOf.positions, Option.isSome_map]
    exact Option.isSome_of_eq_some last
  refine ⟨⟨float, cycle⟩, position, measurement, fetched, answer, returned, indexed, last, ownCycle,
    placed, ownFloat, ?_⟩
  rw [CycleKey.ofRow?_eq_some_iff, and_iff_left ownCycle, ownFloat]

/-- A store that does as it is asked: the row of float 3 is placed at the later of its positions. -/
theorem execute_places_row :
    let position (float : String) (latitude : Int64) : Row := .ofList [("float_id", .text float),
      ("cycle_number", .int 1), ("latitude", .int latitude), ("longitude", .int 70)]
    let measurement : Row := .ofList [("float_id", .int 3), ("cycle_number", .text " 1"),
      ("pres_adjusted", .int 5), ("psal_adjusted", .int 35)]
    let store := MemoryStore.toStore { collections := [
      ("float_locations", [position "3" 10, position "4" 11, position "3" 12]),
      ("float_measurements", [measurement])] }
    let descriptor := Descriptor.ofTopic .salinity none none
    let joined : Row := .ofList [("float_id", .int 3), ("cycle_number", .text " 1"),
      ("pres_adjusted", .int 5), ("psal_adjusted", .int 35), ("latitude", .int 12),
      ("longitude", .int 70), ("juld", .null)]
    let outcome : Outcome :=
      { rows := [joined]
        statistics := {
          drivingFetched := 3
          drivingKept := 3
          distinctKeys := 2
          duplicateKeys := 1
          floatsQueried := 2
          floatsFailed := []
          dependentFetched := 1
          dependentRetained := 1
          rowsMerged := 1
          stage := .done } }
    let fetching : List String → List (FetchEvent String) := FetchWindow.events 2 fun _ => 1
    (∀ floats, FetchWindow.Trace (max 1 2) ⟨floats, []⟩ (fetching floats)) ∧
      (executeAlong fetching store {} descriptor).result = .ok outcome ∧
      ∃ (key : CycleKey) (position : Row),
        ((indexOf store {} descriptor).position? key).isSome = true ∧
        key.last? (keptRows store {} descriptor) = some position ∧
        joined.key? "cycle_number" = some key.cycle ∧
        position.get? "latitude" = some (.int 12) := by
  intro position measurement store descriptor joined outcome fetching
  have buffered (floats : List String) :
      FetchWindow.Trace (max 1 2) ⟨floats, []⟩ (fetching floats) :=
    FetchWindow.trace_events 2 _ floats
  have success : (executeAlong fetching store {} descriptor).result = .ok outcome := by
    decide +kernel
  obtain ⟨key, source, -, -, -, -, indexed, last, cycle, placed, -, -⟩ :=
    executeAlong_rows_origins store {} descriptor 2 fetching buffered outcome success joined
      (List.mem_singleton.mpr rfl)
  have latitude : joined.get? "latitude" = some (.int 12) := by decide +kernel
  exact ⟨buffered, success, key, source, indexed, last, cycle,
    (placed .latitude rfl).symm.trans latitude⟩

/-- A store that ignores which float it is asked for. The row of float 2 comes in the reply to the
fetch of float 1, and is placed at the position of that float. The index has no position for it. -/
theorem execute_misplaces_row :
    let position : Row := .ofList [("float_id", .text "1"), ("cycle_number", .int 1),
      ("latitude", .int 10), ("longitude", .int 70)]
    let measurement (float : String) : Row := .ofList [("float_id", .text float),
      ("cycle_number", .int 1), ("pres_adjusted", .int 5), ("psal_adjusted", .int 35)]
    let store : Store := fun select => .ok (
      if select.collection = "float_locations" then [position]
      else [measurement "1", measurement "2"])
    let descriptor := Descriptor.ofTopic .salinity none none
    let joined (float : String) : Row := .ofList [("float_id", .text float),
      ("cycle_number", .int 1), ("pres_adjusted", .int 5), ("psal_adjusted", .int 35),
      ("latitude", .int 10), ("longitude", .int 70), ("juld", .null)]
    descriptor.driving = .locations ∧ descriptor.dependent = .measurements ∧
      (execute store {} 1 oldestFirst descriptor).result.map (·.rows) =
        .ok [joined "1", joined "2"] ∧
      CycleKey.ofRow? (joined "2") = some ⟨"2", "1"⟩ ∧
      (indexOf store {} descriptor).position? ⟨"2", "1"⟩ = none := by
  decide +kernel

end ArgoQuery.Join
