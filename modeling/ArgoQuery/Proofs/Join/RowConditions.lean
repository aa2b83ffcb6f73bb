import ArgoQuery.Proofs.Join.RowOrigins

/-!
# The conditions that the rows of a join satisfy

Main statement: `executeAlong_rows_satisfy`. On a store in memory, each row of a result is made of a
stored measurement and a stored position of one key, and the two satisfy every condition of the
descriptor that is about a column of theirs. This holds of every descriptor that is driven by the
positions, also of one that projects too little: a residual condition on a column that is not
fetched is satisfied by no row.

A condition on a key column belongs to neither side and is never tested: the execution is the one
without it. So a row can be returned that fails such a condition (`execute_ignores_cycle`), although
the displayed query shows it like the others.
-/

namespace ArgoQuery

namespace Row

/-- A number that a projection shows is one of the row. -/
theorem number?_of_project {names : List String} {name : String} {number : Binary64} {row : Row}
    (shown : (row.project names).number? name = some number) : row.number? name = some number := by
  by_cases member : name ∈ names
  · rw [← number?_project member, shown]
  · rw [number?, get?, stored?_project, if_neg member] at shown
    cases shown

end Row

namespace Descriptor

/-- The descriptor without its conditions on key columns. -/
def withoutKeyConditions (descriptor : Descriptor) : Descriptor :=
  { descriptor with
    conditions := descriptor.conditions.filter fun condition => condition.side?.isSome }

/-- The conditions on key columns belong to no side, so either side keeps its conditions without
them. -/
@[simp]
theorem conditionsOn_withoutKeyConditions (descriptor : Descriptor) (side : Side) :
    descriptor.withoutKeyConditions.conditionsOn side = descriptor.conditionsOn side := by
  rw [conditionsOn, withoutKeyConditions, List.filter_filter, conditionsOn]
  refine List.filter_congr ?_
  intro condition _
  cases condition.side? <;> simp

end Descriptor

namespace Join

section KeyConditions

variable (names : CollectionNames) (descriptor : Descriptor)

/-- The conditions on key columns are in no select. -/
@[simp]
theorem scopedSelect_withoutKeyConditions (side : Side) (float : Option String) :
    scopedSelect names descriptor.withoutKeyConditions side float =
      scopedSelect names descriptor side float := by
  rw [scopedSelect, descriptor.conditionsOn_withoutKeyConditions]
  rfl

/-- The conditions on key columns are no residual ones. -/
@[simp]
theorem survives_withoutKeyConditions (side : Side) :
    survives descriptor.withoutKeyConditions side = survives descriptor side := by
  funext row
  rw [survives, descriptor.conditionsOn_withoutKeyConditions, survives]

/-- A join finishes alike without the conditions on key columns. -/
@[simp]
theorem finish_withoutKeyConditions (fetched kept : Nat) (index : KeyIndex)
    (replies : List Reply) :
    finish descriptor.withoutKeyConditions fetched kept index replies =
      finish descriptor fetched kept index replies := by
  have retained (reply : Reply) : reply.retained descriptor.withoutKeyConditions index =
      reply.retained descriptor index := by
    rw [Reply.retained, survives_withoutKeyConditions]
    rfl
  have merged (reply : Reply) : reply.merged descriptor.withoutKeyConditions index =
      reply.merged descriptor index := by
    rw [Reply.merged, retained]
    rfl
  simp only [finish, countReplies, retained, merged]
  rfl

/-- Conditions on key columns are not tested: without them the execution is the same. -/
theorem executeAlong_withoutKeyConditions (fetching : List String → List (FetchEvent String))
    (store : Store) :
    executeAlong fetching store names descriptor.withoutKeyConditions =
      executeAlong fetching store names descriptor := by
  have driving : descriptor.withoutKeyConditions.driving = descriptor.driving := rfl
  have dependent : descriptor.withoutKeyConditions.dependent = descriptor.dependent := rfl
  simp [executeAlong, driving, dependent]

end KeyConditions

/-- A row whose projection survives the residual conditions survives them itself. -/
theorem survives_of_project {descriptor : Descriptor} {side : Side} {columns : List String}
    {row : Row} (survivor : survives descriptor side (row.project columns) = true) :
    survives descriptor side row = true := by
  rw [survives, List.all_eq_true] at survivor ⊢
  intro condition member
  obtain ⟨number, shown, accepted⟩ := (Option.any_eq_true ..).mp (survivor condition member)
  exact (Option.any_eq_true ..).mpr ⟨number, Row.number?_of_project shown, accepted⟩

/-- A row that a store in memory returns to a select of a join is a stored row that passes the
filters, projected. -/
theorem exists_stored_of_answer {store : MemoryStore} {names : CollectionNames}
    {descriptor : Descriptor} {side : Side} {float : Option String} {rows : List Row}
    (answer : store.toStore (scopedSelect names descriptor side float) = .ok rows) {row : Row}
    (member : row ∈ rows) :
    ∃ stored ∈ store.rowsOf (names.ofSide side),
      row = stored.project (columnNames descriptor side) ∧
      (∀ own ∈ float, stored.key? Column.floatId.name = some own) ∧
      (pushedFilters descriptor side).all (fun filter => filter.admits stored) = true := by
  rw [MemoryStore.eq_evaluate_of_toStore answer] at member
  obtain ⟨stored, found, rfl⟩ := List.mem_map.mp member
  obtain ⟨isStored, ofFloat, filters⟩ := mem_of_mem_found_scopedSelect found
  refine ⟨stored, isStored, rfl, ?_, filters⟩
  rintro own rfl
  simpa using ofFloat

/-- A stored row that is returned and survives the residual conditions satisfies all conditions on
its side. -/
theorem satisfies_of_project {descriptor : Descriptor} {side : Side} {stored : Row}
    (filters : (pushedFilters descriptor side).all (fun filter => filter.admits stored) = true)
    (survivor : survives descriptor side (stored.project (columnNames descriptor side)) = true)
    {condition : Condition} (member : condition ∈ descriptor.conditions)
    (onSide : condition.side? = some side) : satisfies stored condition = true := by
  have qualified : qualifies descriptor side stored = true := by
    rw [qualifies_eq, filters, survives_of_project survivor]
    rfl
  rw [qualifies, List.all_eq_true] at qualified
  exact qualified condition (List.mem_filter.mpr ⟨member, decide_eq_true onSide⟩)

section Origins

variable {store : MemoryStore} {names : CollectionNames} {descriptor : Descriptor}

/-- A row that came to the fetch of a float is a stored measurement of the float, and it satisfies
the conditions on measurements if it survives. -/
theorem exists_measurement_of_answer (joinKey : descriptor.joinKey = (.floatId, .cycleNumber))
    {float cycle : String} {rows : List Row}
    (answer : store.toStore (scopedSelect names descriptor .measurements (some float)) = .ok rows)
    {row : Row} (member : row ∈ rows) (own : row.key? Column.cycleNumber.name = some cycle)
    (survivor : survives descriptor .measurements row = true) :
    ∃ measurement ∈ store.rowsOf names.measurements,
      row = measurement.project (columnNames descriptor .measurements) ∧
      CycleKey.ofRow? measurement = some ⟨float, cycle⟩ ∧
      ∀ condition ∈ descriptor.conditions,
        condition.side? = some .measurements → satisfies measurement condition = true := by
  obtain ⟨measurement, stored, rfl, ofFloat, filters⟩ := exists_stored_of_answer answer member
  have hasCycle : Column.cycleNumber ∈ descriptor.columnsOf .measurements := by
    simp [Descriptor.columnsOf, joinKey]
  refine ⟨measurement, stored, rfl, ?_, ?_⟩
  · rw [key?_project_columns hasCycle] at own
    exact CycleKey.ofRow?_eq_some_iff.mpr ⟨ofFloat float rfl, own⟩
  · intro condition listed
    exact satisfies_of_project filters survivor listed

/-- The last kept row of a key is a stored position of the key, and it satisfies the conditions on
positions. -/
theorem exists_position_of_last? (driving : descriptor.driving = .locations)
    (joinKey : descriptor.joinKey = (.floatId, .cycleNumber)) {key : CycleKey} {row : Row}
    (last : key.last? (keptRows store.toStore names descriptor) = some row) :
    ∃ position ∈ store.rowsOf names.locations,
      row = position.project (columnNames descriptor .locations) ∧
      CycleKey.ofRow? position = some key ∧
      ∀ condition ∈ descriptor.conditions,
        condition.side? = some .locations → satisfies position condition = true := by
  obtain ⟨isKept, own⟩ := List.mem_filter.mp (List.mem_of_getLast? last)
  obtain ⟨returned, survivor⟩ := List.mem_filter.mp isKept
  rw [drivingRows, drivingSelect, driving] at returned
  cases answer : store.toStore (scopedSelect names descriptor .locations none) with
  | error cause => simp [answer] at returned
  | ok rows =>
    rw [answer] at returned
    obtain ⟨position, stored, rfl, -, filters⟩ := exists_stored_of_answer answer returned
    rw [driving] at survivor
    refine ⟨position, stored, rfl, ?_, ?_⟩
    · rw [← ofRow?_project joinKey]
      exact of_decide_eq_true own
    · intro condition listed
      exact satisfies_of_project filters survivor listed

end Origins

/-- On a store in memory, with failures or without, each row of a result is made of a stored
measurement and a stored position of one key that satisfy the conditions on their columns. The
conditions on key columns make no difference to the execution.

This is shown of the join over the answers of the store. The join over the store itself has no other
results: it has those only where no select stops it. -/
theorem executeAlong_rows_satisfy (store : MemoryStore) (names : CollectionNames)
    (descriptor : Descriptor) (driving : descriptor.driving = .locations)
    (dependent : descriptor.dependent = .measurements)
    (joinKey : descriptor.joinKey = (.floatId, .cycleNumber)) (concurrency : Nat)
    (fetching : List String → List (FetchEvent String))
    (buffered : ∀ floats, FetchWindow.Trace (max 1 concurrency) ⟨floats, []⟩ (fetching floats)) :
    executeAlong fetching store.toStore names descriptor.withoutKeyConditions =
        executeAlong fetching store.toStore names descriptor ∧
      (∀ outcome, (store.joinAlong fetching names descriptor).result = .ok outcome →
        (executeAlong fetching store.toStore names descriptor).result = .ok outcome) ∧
      ∀ outcome, (executeAlong fetching store.toStore names descriptor).result = .ok outcome →
        ∀ row ∈ outcome.rows, ∃ measurement ∈ store.rowsOf names.measurements,
          ∃ position ∈ store.rowsOf names.locations, ∃ key,
            CycleKey.ofRow? measurement = some key ∧ CycleKey.ofRow? position = some key ∧
            row = combined descriptor (measurement, position) ∧
            ∀ condition ∈ descriptor.conditions,
              (condition.side? = some .measurements → satisfies measurement condition = true) ∧
              (condition.side? = some .locations → satisfies position condition = true) := by
  refine ⟨executeAlong_withoutKeyConditions names descriptor fetching store.toStore,
    fun _ success => (MemoryStore.joinAlong_ok buffered success).1, ?_⟩
  intro outcome success row member
  obtain ⟨order, perm, result⟩ :=
    resultOf_of_executeAlong (fun floats => (buffered floats).answered_perm) success
  obtain ⟨float, -, contributed⟩ :=
    List.mem_flatMap.mp ((rows_perm_of_resultOf perm result).mem_iff.mp member)
  obtain ⟨received, fetched, cycle, kept, last, own, survivor, merged⟩ :=
    Reply.exists_pair_of_merged indexes_indexOf contributed
  obtain ⟨rows, answer, returned⟩ := Reply.exists_of_mem_fetched fetched
  rw [replyOf, dependentSelect, dependent] at answer
  rw [dependent] at survivor
  obtain ⟨measurement, isMeasurement, rfl, ofMeasurement, onMeasurement⟩ :=
    exists_measurement_of_answer joinKey answer returned own survivor
  obtain ⟨position, isPosition, rfl, ofPosition, onPosition⟩ :=
    exists_position_of_last? driving joinKey last
  refine ⟨measurement, isMeasurement, position, isPosition, ⟨float, cycle⟩, ofMeasurement,
    ofPosition, merged, ?_⟩
  intro condition listed
  exact ⟨onMeasurement condition listed, onPosition condition listed⟩

/-- Of two cycles the one on the excluded end of a range is left out. The row of the other is made
of its measurement and its position, which lies in the range. -/
theorem execute_keeps_range :
    let position (cycle : Int64) (day : Binary64) : Row := .ofList [("float_id", .text "1"),
      ("cycle_number", .int cycle), ("latitude", .int 10), ("longitude", .int 70),
      ("juld", .float day)]
    let measurement (cycle : Int64) : Row := .ofList [("float_id", .int 1),
      ("cycle_number", .int cycle), ("pres_adjusted", .int 5), ("psal_adjusted", .int 35)]
    let store : MemoryStore := { collections := [
      ("float_locations", [position 1 10, position 2 20]),
      ("float_measurements", [measurement 1, measurement 2])] }
    let inRange : Condition := .between .julianDay 10 20 .excluded
    let descriptor : Descriptor := { Descriptor.ofTopic .salinity none none with
      conditions := [.notNull .salinity, inRange] }
    let joined : Row := .ofList [("float_id", .int 1), ("cycle_number", .int 1),
      ("pres_adjusted", .int 5), ("psal_adjusted", .int 35), ("latitude", .int 10),
      ("longitude", .int 70), ("juld", .float 10)]
    let fetching : List String → List (FetchEvent String) := FetchWindow.events 2 oldestFirst
    (∀ floats, FetchWindow.Trace (max 1 2) ⟨floats, []⟩ (fetching floats)) ∧
      (store.joinAlong fetching {} descriptor).result.map (·.rows) = .ok [joined] ∧
      ∃ own ∈ [measurement 1, measurement 2], ∃ place ∈ [position 1 10, position 2 20],
        joined = combined descriptor (own, place) ∧
        satisfies own (.notNull .salinity) = true ∧ satisfies place inRange = true := by
  intro position measurement store inRange descriptor joined fetching
  have buffered (floats : List String) :
      FetchWindow.Trace (max 1 2) ⟨floats, []⟩ (fetching floats) :=
    FetchWindow.trace_events 2 _ floats
  have rows : (store.joinAlong fetching {} descriptor).result.map (·.rows) = .ok [joined] := by
    decide +kernel
  cases success : (store.joinAlong fetching {} descriptor).result with
  | error cause =>
    rw [success] at rows
    cases rows
  | ok outcome =>
    rw [success] at rows
    have returned : outcome.rows = [joined] := Except.ok.inj rows
    obtain ⟨-, ofJoin, satisfies⟩ :=
      executeAlong_rows_satisfy store {} descriptor rfl rfl rfl 2 fetching buffered
    obtain ⟨own, isOwn, place, isPlace, -, -, -, made, satisfied⟩ :=
      satisfies outcome (ofJoin outcome success) joined (returned ▸ List.mem_singleton.mpr rfl)
    have salinity := (satisfied (.notNull .salinity) (by simp [descriptor])).1 rfl
    have day := (satisfied inRange (by simp [descriptor])).2 rfl
    exact ⟨buffered, rows, own, isOwn, place, isPlace, made, salinity, day⟩

/-- A row of cycle 1 is returned to a descriptor that asks for cycle 2, and no stored row is of that
cycle. -/
theorem execute_ignores_cycle :
    let position : Row := .ofList [("float_id", .text "1"), ("cycle_number", .int 1),
      ("latitude", .int 10), ("longitude", .int 70)]
    let measurement : Row := .ofList [("float_id", .text "1"), ("cycle_number", .int 1),
      ("pres_adjusted", .int 5), ("psal_adjusted", .int 35)]
    let store : MemoryStore := { collections := [
      ("float_locations", [position]), ("float_measurements", [measurement])] }
    let ofCycle : Condition := .between .cycleNumber 2 2 .included
    let descriptor : Descriptor := { Descriptor.ofTopic .salinity none none with
      conditions := [ofCycle] }
    (store.join {} 1 oldestFirst descriptor).result.map (·.rows.length) = .ok 1 ∧
      satisfies measurement ofCycle = false ∧ satisfies position ofCycle = false := by
  decide +kernel

end Join

end ArgoQuery
