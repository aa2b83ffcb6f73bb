import ArgoQuery.Proofs.Join.RowOrigins

/-!
# Which rows a join returns, whatever it projects

A projection says which columns the rows of a result have. It also says which columns are fetched,
and a residual condition is tested on what was fetched: one on a column that is not fetched is
satisfied by no row (`survivesFetched_eq`). Main statement: `execute_keys_of_projection`. On a store
in memory two joins that differ in nothing but their projections count the same and return rows of
the same keys, if the projections agree on whether a side fetches what its residual conditions test.

A join that does not fetch this returns nothing, however many rows satisfy its conditions:
`execute_loses_unprojected`. Conditions that the store tests are not affected, as it tests them
before it projects.
-/

namespace ArgoQuery

/-- No two columns have one name. -/
theorem Column.name_injective : Function.Injective Column.name := by
  intro first second same
  cases first <;> cases second <;> simp_all [name]

/-- A projection has no number under a name that it leaves out. -/
theorem Row.number?_project_eq_none {names : List String} {name : String} (row : Row)
    (absent : name ∉ names) : (row.project names).number? name = none := by
  rw [number?, get?, stored?_project, if_neg absent]
  rfl

/-- The descriptor with another projection. -/
def Descriptor.projecting (descriptor : Descriptor) (projection : List Column) : Descriptor :=
  { descriptor with projection }

namespace Join

/-- Whether the columns that the residual conditions of a side test are fetched. -/
def FetchesTested (descriptor : Descriptor) (side : Side) : Prop :=
  ∀ condition ∈ descriptor.conditionsOn side, condition.isResidual = true →
    condition.column ∈ descriptor.columnsOf side

instance (descriptor : Descriptor) (side : Side) : Decidable (FetchesTested descriptor side) :=
  inferInstanceAs (Decidable (∀ condition ∈ _, _ → _))

/-- Whether a stored row survives the residual conditions once it is fetched. -/
def survivesFetched (descriptor : Descriptor) (side : Side) (row : Row) : Bool :=
  survives descriptor side (row.project (columnNames descriptor side))

/-- If everything that is tested is fetched, the residual conditions say of a fetched row what they
say of the stored one. Otherwise no row survives. -/
theorem survivesFetched_eq (descriptor : Descriptor) (side : Side) (row : Row) :
    survivesFetched descriptor side row =
      (decide (FetchesTested descriptor side) && survives descriptor side row) := by
  by_cases tested : FetchesTested descriptor side
  · rw [decide_eq_true tested, Bool.true_and]
    exact survives_project tested row
  · rw [decide_eq_false tested, Bool.false_and]
    simp only [FetchesTested, not_forall] at tested
    obtain ⟨condition, onSide, residual, absent⟩ := tested
    refine List.all_eq_false.mpr ⟨condition, List.mem_filter.mpr ⟨onSide, residual⟩, ?_⟩
    have unnamed : condition.column.name ∉ columnNames descriptor side :=
      mt (List.mem_map_of_injective Column.name_injective).mp absent
    rw [Row.number?_project_eq_none row unnamed]
    exact Bool.false_ne_true

namespace KeyIndex

/-- Whether two indices are alike apart from the positions that they hold under their keys. -/
structure SameKeys (index other : KeyIndex) : Prop where
  keys : index.positions.map Prod.fst = other.positions.map Prod.fst
  cyclesByFloat : index.cyclesByFloat = other.cyclesByFloat
  duplicates : index.duplicates = other.duplicates

/-- A position that is put adds its key at the end, unless it is known. -/
@[simp]
theorem keys_putPosition (key : CycleKey) (position : Position)
    (positions : List (CycleKey × Position)) :
    (putPosition key position positions).map Prod.fst =
      if key ∈ positions.map Prod.fst then positions.map Prod.fst
      else positions.map Prod.fst ++ [key] := by
  induction positions with
  | nil => rfl
  | cons entry rest ih =>
    obtain ⟨present, old⟩ := entry
    rw [putPosition]
    by_cases same : present = key
    · simp [same]
    · rw [if_neg same, List.map_cons, ih, List.map_cons]
      by_cases later : key ∈ rest.map Prod.fst <;> simp [later, Ne.symm same]

/-- An index has a position under exactly its keys. -/
theorem position?_isSome_iff {index : KeyIndex} {key : CycleKey} :
    (index.position? key).isSome = true ↔ key ∈ index.positions.map Prod.fst := by
  rw [position?, List.lookup_isSome_iff, List.mem_map]
  refine exists_congr fun entry => and_congr_right fun _ => ?_
  rw [beq_iff_eq, eq_comm]

namespace SameKeys

variable {index other : KeyIndex} (same : index.SameKeys other)

include same

/-- Under the same key, two positions are added alike. -/
theorem add (key : CycleKey) (position position' : Position) :
    (index.add key position).SameKeys (other.add key position') where
  keys := by simp only [KeyIndex.add, keys_putPosition, same.keys]
  cyclesByFloat := by simp only [KeyIndex.add, same.cyclesByFloat]
  duplicates := by simp only [KeyIndex.add, position?_isSome_iff, same.keys, same.duplicates]

/-- Indices of the same keys keep them when rows of one cycle are added to both. -/
theorem addRow {row row' : Row} (alike : CycleKey.ofRow? row = CycleKey.ofRow? row') :
    (index.addRow row).SameKeys (other.addRow row') := by
  rw [KeyIndex.addRow, KeyIndex.addRow, alike]
  cases CycleKey.ofRow? row' with
  | none => exact same
  | some key => exact same.add key _ _

/-- Indices of the same keys have as many positions. -/
theorem length_positions : index.positions.length = other.positions.length := by
  rw [← List.length_map, same.keys, List.length_map]

/-- Indices of the same keys are both empty or neither is. -/
theorem isEmpty_positions : index.positions.isEmpty = other.positions.isEmpty := by
  rw [← List.isEmpty_map, same.keys, List.isEmpty_map]

/-- Indices of the same keys have the same floats. -/
theorem floats : index.floats = other.floats := by
  rw [KeyIndex.floats, same.cyclesByFloat, KeyIndex.floats]

/-- Indices of the same keys admit the same rows of a float. -/
theorem isIndexed (float : String) : isIndexed index float = isIndexed other float := by
  have cycles : index.cyclesOf float = other.cyclesOf float := by
    rw [cyclesOf, same.cyclesByFloat, cyclesOf]
  funext row
  rw [Join.isIndexed, cycles, Join.isIndexed]

end SameKeys

/-- What rows hold beside their keys makes no difference to the keys of their index. -/
theorem sameKeys_ofRows {f g : Row → Row}
    (alike : ∀ row, CycleKey.ofRow? (f row) = CycleKey.ofRow? (g row)) (rows : List Row) :
    (ofRows (rows.map f)).SameKeys (ofRows (rows.map g)) := by
  have run (index other : KeyIndex) (same : index.SameKeys other) :
      ((rows.map f).foldl addRow index).SameKeys ((rows.map g).foldl addRow other) := by
    induction rows generalizing index other with
    | nil => exact same
    | cons row rest ih => exact ih _ _ (same.addRow (alike row))
  exact run empty empty ⟨rfl, rfl, rfl⟩

end KeyIndex

namespace Reply

variable {descriptor : Descriptor} {index : KeyIndex}

/-- A row keeps its key when it is merged. -/
theorem ofRow?_of_merge? {reply : Reply} {row merged : Row}
    (merges : reply.merge? descriptor index row = some merged) :
    CycleKey.ofRow? merged = CycleKey.ofRow? row := by
  simp only [merge?, Option.bind_eq_bind, Option.bind_eq_some_iff] at merges
  obtain ⟨cycle, -, position, -, rest⟩ := merges
  obtain rfl := Option.some.inj rest
  rw [CycleKey.ofRow?, Row.key?_reorder, Row.key?_reorder, Position.key?_onto _ _ (by decide),
    Position.key?_onto _ _ (by decide), CycleKey.ofRow?]

/-- The merged rows have the keys of the retained ones. -/
theorem keys_merged {rows : List Row} (indexed : index.Indexes rows) (reply : Reply) :
    (reply.merged descriptor index).map CycleKey.ofRow? =
      (reply.retained descriptor index).map CycleKey.ofRow? := by
  rw [merged, List.map_filterMap, ← List.filterMap_eq_map]
  refine List.filterMap_congr fun row member => ?_
  obtain ⟨merged, merges⟩ := Option.isSome_iff_exists.mp (merge?_isSome indexed member)
  rw [merges, Option.map_some, ofRow?_of_merge? merges, Function.comp_apply]

end Reply

section Memory

variable {store : MemoryStore} {names : CollectionNames} {descriptor : Descriptor}
  (answers : ∀ select, store.toStore select = .ok (store.evaluate select))

include answers

/-- The driving rows that a store in memory returns are the found ones with the columns that are
fetched. -/
theorem drivingRows_toStore :
    drivingRows store.toStore names descriptor =
      (store.found (drivingSelect names descriptor)).map fun row =>
        row.project (columnNames descriptor descriptor.driving) := by
  rw [drivingRows, answers]
  rfl

/-- The rows that a store in memory returns for a float are the found ones with the columns that are
fetched. -/
theorem fetched_toStore (float : String) :
    (replyOf store.toStore names descriptor float).fetched =
      (store.found (dependentSelect names descriptor float)).map fun row =>
        row.project (columnNames descriptor descriptor.dependent) := by
  rw [replyOf, Reply.fetched, answers]
  rfl

/-- The rows that are indexed are those found that survive once they are fetched. -/
theorem keptRows_eq_survivors :
    keptRows store.toStore names descriptor =
      ((store.found (drivingSelect names descriptor)).filter
        (survivesFetched descriptor descriptor.driving)).map fun row =>
          row.project (columnNames descriptor descriptor.driving) := by
  rw [keptRows, drivingRows_toStore answers, List.filter_map]
  rfl

/-- The rows that a float retains are those found that survive once they are fetched and are of an
indexed cycle. -/
theorem retained_eq_survivors (joinKey : descriptor.joinKey = (.floatId, .cycleNumber))
    (index : KeyIndex) (float : String) :
    (replyOf store.toStore names descriptor float).retained descriptor index =
      (((store.found (dependentSelect names descriptor float)).filter
        (survivesFetched descriptor descriptor.dependent)).filter (isIndexed index float)).map
          fun row => row.project (columnNames descriptor descriptor.dependent) := by
  have cycleFetched : Column.cycleNumber ∈ descriptor.columnsOf descriptor.dependent := by
    simp [Descriptor.columnsOf, joinKey]
  rw [Reply.retained, fetched_toStore answers, List.filter_map, List.filter_map]
  refine congrArg (List.map _) (List.filter_congr fun row _ => ?_)
  rw [Function.comp_apply, key?_project_columns cycleFetched, isIndexed]
  rfl

/-- No fetch of a float fails. -/
theorem isFailure_toStore (float : String) :
    (replyOf store.toStore names descriptor float).isFailure = false := by
  rw [replyOf, Reply.isFailure, answers]

end Memory

section Projections

variable {store : MemoryStore} (names : CollectionNames) {descriptor : Descriptor}
  {projection : List Column}
  (answers : ∀ select, store.toStore select = .ok (store.evaluate select))
  (joinKey : descriptor.joinKey = (.floatId, .cycleNumber))
  (agree : ∀ side, FetchesTested descriptor side ↔
    FetchesTested (descriptor.projecting projection) side)

include agree in
/-- Which rows survive once they are fetched depends on a projection only through what it fetches.
-/
@[simp]
theorem survivesFetched_projecting (side : Side) :
    survivesFetched (descriptor.projecting projection) side = survivesFetched descriptor side := by
  funext row
  rw [survivesFetched_eq, survivesFetched_eq, decide_eq_decide.mpr (agree side)]
  rfl

include answers joinKey agree

/-- The same keys are indexed.

The driving selects differ in nothing but the columns that they ask for, so they find the same
stored rows, and the same ones survive. -/
theorem sameKeys_indexOf :
    (indexOf store.toStore names descriptor).SameKeys
      (indexOf store.toStore names (descriptor.projecting projection)) := by
  have found : store.found (drivingSelect names (descriptor.projecting projection)) =
      store.found (drivingSelect names descriptor) := rfl
  have side : (descriptor.projecting projection).driving = descriptor.driving := rfl
  have joinKey' : (descriptor.projecting projection).joinKey = (.floatId, .cycleNumber) := joinKey
  rw [indexOf, indexOf, keptRows_eq_survivors answers, keptRows_eq_survivors answers, found, side,
    survivesFetched_projecting agree]
  refine KeyIndex.sameKeys_ofRows (fun row => ?_) _
  rw [ofRow?_project joinKey, ofRow?_project joinKey']

/-- The same stored rows of a float are retained. -/
theorem exists_retained (float : String) : ∃ rows : List Row,
    (replyOf store.toStore names descriptor float).retained descriptor
        (indexOf store.toStore names descriptor) =
      rows.map (·.project (columnNames descriptor descriptor.dependent)) ∧
    (replyOf store.toStore names (descriptor.projecting projection) float).retained
        (descriptor.projecting projection)
        (indexOf store.toStore names (descriptor.projecting projection)) =
      rows.map fun row =>
        row.project (columnNames (descriptor.projecting projection) descriptor.dependent) := by
  have found : store.found (dependentSelect names (descriptor.projecting projection) float) =
      store.found (dependentSelect names descriptor float) := rfl
  have side : (descriptor.projecting projection).dependent = descriptor.dependent := rfl
  have joinKey' : (descriptor.projecting projection).joinKey = (.floatId, .cycleNumber) := joinKey
  have index := sameKeys_indexOf names answers joinKey agree
  refine ⟨_, retained_eq_survivors answers joinKey _ float, ?_⟩
  rw [retained_eq_survivors answers joinKey', found, side, survivesFetched_projecting agree,
    index.isIndexed]

/-- A float contributes rows of the same keys. -/
theorem keys_contribution (float : String) :
    (contribution store.toStore names descriptor float).map CycleKey.ofRow? =
      (contribution store.toStore names (descriptor.projecting projection) float).map
        CycleKey.ofRow? := by
  have joinKey' : (descriptor.projecting projection).joinKey = (.floatId, .cycleNumber) := joinKey
  obtain ⟨rows, retained, retained'⟩ := exists_retained names answers joinKey agree float
  rw [contribution, contribution, Reply.keys_merged indexes_indexOf,
    Reply.keys_merged indexes_indexOf, retained, retained', List.map_map, List.map_map]
  refine List.map_congr_left fun row _ => ?_
  rw [Function.comp_apply, Function.comp_apply, ofRow?_project joinKey, ofRow?_project joinKey']

/-- The counts are the same. -/
theorem statistics_projecting (order : List String) :
    statisticsOf store.toStore names descriptor order =
      statisticsOf store.toStore names (descriptor.projecting projection) order := by
  have index := sameKeys_indexOf names answers joinKey agree
  have driving : (drivingRows store.toStore names descriptor).length =
      (drivingRows store.toStore names (descriptor.projecting projection)).length := by
    rw [drivingRows_toStore answers, drivingRows_toStore answers, List.length_map, List.length_map]
    rfl
  have kept : (keptRows store.toStore names descriptor).length =
      (keptRows store.toStore names (descriptor.projecting projection)).length := by
    rw [keptRows_eq_survivors answers, keptRows_eq_survivors answers, List.length_map,
      List.length_map]
    exact congrArg (fun test => (List.filter test _).length)
      (survivesFetched_projecting agree descriptor.driving).symm
  have fetched (float : String) :
      (replyOf store.toStore names descriptor float).fetched.length =
        (replyOf store.toStore names (descriptor.projecting projection) float).fetched.length := by
    rw [fetched_toStore answers, fetched_toStore answers, List.length_map, List.length_map]
    rfl
  have retained (float : String) :
      ((replyOf store.toStore names descriptor float).retained descriptor
          (indexOf store.toStore names descriptor)).length =
        ((replyOf store.toStore names (descriptor.projecting projection) float).retained
          (descriptor.projecting projection)
          (indexOf store.toStore names (descriptor.projecting projection))).length := by
    obtain ⟨rows, own, other⟩ := exists_retained names answers joinKey agree float
    rw [own, other, List.length_map, List.length_map]
  have none_fails (own : Descriptor) :
      (order.map (replyOf store.toStore names own)).filter Reply.isFailure = [] := by
    rw [List.filter_map, List.map_eq_nil_iff, List.filter_eq_nil_iff]
    intro float _
    simp [isFailure_toStore answers]
  simp only [statisticsOf, countReplies, List.flatMap_map, List.length_flatMap,
    Reply.length_merged indexes_indexOf, none_fails, driving, kept, fetched, retained,
    index.length_positions, index.floats, index.duplicates, index.isEmpty_positions]

end Projections

/-- If a side does not fetch what its residual conditions test, no float contributes a row.

Without a driving row there is no float to fetch, and without a dependent row nothing to merge. -/
theorem nothing_contributed_of_not_fetchesTested {store : MemoryStore} {names : CollectionNames}
    {descriptor : Descriptor}
    (answers : ∀ select, store.toStore select = .ok (store.evaluate select))
    (joinKey : descriptor.joinKey = (.floatId, .cycleNumber))
    (untested : ¬ (FetchesTested descriptor descriptor.driving ∧
      FetchesTested descriptor descriptor.dependent)) :
    (queried store.toStore names descriptor).flatMap
      (contribution store.toStore names descriptor) = [] := by
  have nothing {side : Side} (missing : ¬ FetchesTested descriptor side) (rows : List Row) :
      rows.filter (survivesFetched descriptor side) = [] := by
    rw [List.filter_eq_nil_iff]
    intro row _
    rw [survivesFetched_eq, decide_eq_false missing, Bool.false_and]
    exact Bool.false_ne_true
  by_cases driving : FetchesTested descriptor descriptor.driving
  · have dependent : ¬ FetchesTested descriptor descriptor.dependent :=
      fun tested => untested ⟨driving, tested⟩
    refine List.flatMap_eq_nil_iff.mpr fun float _ => ?_
    rw [contribution, Reply.merged, retained_eq_survivors answers joinKey, nothing dependent]
    rfl
  · have none_queried : queried store.toStore names descriptor = [] := by
      rw [queried, indexOf, keptRows_eq_survivors answers, nothing driving]
      rfl
    rw [none_queried]
    rfl

/-- The result of a join over a store in memory is that of an order of the floats. -/
theorem resultOf_of_join {store : MemoryStore} {names : CollectionNames} {descriptor : Descriptor}
    {concurrency : Nat} {schedule : Schedule} {outcome : Outcome}
    (success : (store.join names concurrency schedule descriptor).result = .ok outcome) :
    ∃ order, order.Perm (queried store.toStore names descriptor) ∧
      resultOf store.toStore names descriptor order = .ok outcome :=
  resultOf_of_executeAlong (FetchWindow.events_answered concurrency schedule)
    (MemoryStore.joinAlong_ok (FetchWindow.trace_events concurrency schedule) success).1

/-- On a store in memory without failures two joins that differ in nothing but their projections
count the same and return rows of the same keys, each as often, if they have results and their
projections agree on whether a side fetches what its residual conditions test. Both are run with any
number of concurrent fetches that end in any order. A join that does not fetch this on both sides
returns no rows.

Either join fails for the order of rows only. Over an orderly store neither does if every column of
the ordering treats all rows alike that the floats contribute to it. -/
theorem execute_keys_of_projection (collections : List (String × List Row))
    (names : CollectionNames) (descriptor : Descriptor)
    (joinKey : descriptor.joinKey = (.floatId, .cycleNumber)) (projection : List Column)
    (agree : ∀ side, FetchesTested descriptor side ↔
      FetchesTested { descriptor with projection } side)
    (concurrency concurrency' : Nat) (schedule schedule' : Schedule) :
    let store : MemoryStore := { collections }
    let other : Descriptor := { descriptor with projection }
    let result := (store.join names concurrency schedule descriptor).result
    let result' := (store.join names concurrency' schedule' other).result
    (∀ outcome outcome', result = .ok outcome → result' = .ok outcome' →
        (outcome.rows.map CycleKey.ofRow?).Perm (outcome'.rows.map CycleKey.ofRow?) ∧
        outcome.statistics = outcome'.statistics) ∧
      (∀ outcome, result = .ok outcome →
        ¬ (FetchesTested descriptor descriptor.driving ∧
          FetchesTested descriptor descriptor.dependent) → outcome.rows = []) ∧
      (∀ failure, result = .error failure ∨ result' = .error failure → failure = .disorder) ∧
      (store.IsOrderly names →
        (∀ own ∈ [descriptor, other], ∀ column ∈ orderingNames own, Row.IsHomogeneous column
          ((queried store.toStore names own).flatMap (contribution store.toStore names own))) →
        ∃ outcome outcome', result = .ok outcome ∧ result' = .ok outcome') := by
  intro store other result result'
  have answers : ∀ select, store.toStore select = .ok (store.evaluate select) :=
    MemoryStore.toStore_ok collections
  refine ⟨?_, ?_, ?_, ?_⟩
  · intro outcome outcome' success success'
    obtain ⟨order, perm, ordered⟩ := resultOf_of_join success
    obtain ⟨order', perm', ordered'⟩ := resultOf_of_join success'
    have queried_eq : queried store.toStore names (descriptor.projecting projection) =
        queried store.toStore names descriptor :=
      (sameKeys_indexOf names answers joinKey agree).floats.symm
    replace perm' : order'.Perm (queried store.toStore names (descriptor.projecting projection)) :=
      perm'
    replace ordered' : resultOf store.toStore names (descriptor.projecting projection) order' =
      .ok outcome' := ordered'
    have keys : ((queried store.toStore names descriptor).flatMap
        (contribution store.toStore names descriptor)).map CycleKey.ofRow? =
          ((queried store.toStore names descriptor).flatMap
            (contribution store.toStore names (descriptor.projecting projection))).map
              CycleKey.ofRow? := by
      rw [List.map_flatMap, List.map_flatMap]
      exact List.flatMap_congr fun float _ => keys_contribution names answers joinKey agree float
    have returned := (rows_perm_of_resultOf perm ordered).map CycleKey.ofRow?
    have returned' := (rows_perm_of_resultOf perm' ordered').map CycleKey.ofRow?
    rw [queried_eq] at perm' returned'
    refine ⟨returned.trans (keys ▸ returned'.symm), ?_⟩
    rw [(resultOf_eq_ok_iff.mp ordered).2, (resultOf_eq_ok_iff.mp ordered').2,
      statisticsOf_perm store.toStore names descriptor (perm.trans perm'.symm)]
    exact statistics_projecting names answers joinKey agree order'
  · intro outcome success untested
    obtain ⟨order, perm, ordered⟩ := resultOf_of_join success
    have rows := rows_perm_of_resultOf perm ordered
    rw [nothing_contributed_of_not_fetchesTested answers joinKey untested] at rows
    exact rows.eq_nil
  · rintro failure (failed | failed)
    · exact MemoryStore.failure_of_join failed
    · exact MemoryStore.failure_of_join failed
  · intro orderly homogeneous
    obtain ⟨outcome, success⟩ := MemoryStore.isOk_join_of_homogeneous concurrency schedule orderly
      (homogeneous descriptor (by simp))
    obtain ⟨outcome', success'⟩ := MemoryStore.isOk_join_of_homogeneous concurrency' schedule'
      orderly (homogeneous other (by simp))
    exact ⟨outcome, outcome', success, success'⟩

/-- Two rows of one cycle are returned with their depth and without it, at a day that both
projections have. -/
theorem execute_without_pressure :
    let position : Row := .ofList [("float_id", .text "1"), ("cycle_number", .int 1),
      ("latitude", .int 10), ("longitude", .int 70), ("juld", .int 15)]
    let measurement (depth : Int64) : Row := .ofList [("float_id", .int 1),
      ("cycle_number", .text " 1 "), ("pres_adjusted", .int depth), ("psal_adjusted", .int 35)]
    let collections := [("float_locations", [position]),
      ("float_measurements", [measurement 5, measurement 9])]
    let descriptor : Descriptor := { Descriptor.ofTopic .salinity none none with
      conditions := [.notNull .salinity, .between .julianDay 10 20 .excluded] }
    let projection : List Column := [.julianDay, .cycleNumber]
    let store : MemoryStore := { collections }
    descriptor.joinKey = (.floatId, .cycleNumber) ∧
      (∀ side, FetchesTested descriptor side ↔
        FetchesTested { descriptor with projection } side) ∧
      ∃ outcome outcome', (store.join {} 1 oldestFirst descriptor).result = .ok outcome ∧
        (store.join {} 2 oldestFirst { descriptor with projection }).result = .ok outcome' ∧
        outcome.rows.map CycleKey.ofRow? = [some ⟨"1", "1"⟩, some ⟨"1", "1"⟩] ∧
        (outcome.rows.map CycleKey.ofRow?).Perm (outcome'.rows.map CycleKey.ofRow?) ∧
        outcome.statistics = outcome'.statistics := by
  intro position measurement collections descriptor projection store
  have agree : ∀ side, FetchesTested descriptor side ↔
      FetchesTested { descriptor with projection } side := by
    intro side
    cases side <;> decide +kernel
  have keys : (store.join {} 1 oldestFirst descriptor).result.map
      (fun outcome => outcome.rows.map CycleKey.ofRow?) =
        .ok [some ⟨"1", "1"⟩, some ⟨"1", "1"⟩] := by decide +kernel
  obtain ⟨same, -, -, succeed⟩ := execute_keys_of_projection collections {} descriptor rfl
    projection agree 1 2 oldestFirst oldestFirst
  obtain ⟨outcome, outcome', result, result'⟩ := succeed
    (fun side => by cases side <;> decide +kernel) (by decide +kernel)
  obtain ⟨perm, counts⟩ := same outcome outcome' result result'
  replace result : (store.join {} 1 oldestFirst descriptor).result = .ok outcome := result
  rw [result] at keys
  exact ⟨rfl, agree, outcome, outcome', result, result', Except.ok.inj keys, perm, counts⟩

/-- A position of day 15 is in the range from 10 to 20. Its measurement is returned with the day,
and not returned without it. -/
theorem execute_loses_unprojected :
    let position : Row := .ofList [("float_id", .text "1"), ("cycle_number", .int 1),
      ("latitude", .int 10), ("longitude", .int 70), ("juld", .int 15)]
    let measurement : Row := .ofList [("float_id", .text "1"), ("cycle_number", .int 1),
      ("pres_adjusted", .int 5), ("psal_adjusted", .int 35)]
    let store : MemoryStore := { collections := [
      ("float_locations", [position]), ("float_measurements", [measurement])] }
    let descriptor : Descriptor := { Descriptor.ofTopic .salinity none none with
      conditions := [.between .julianDay 10 20 .excluded] }
    let counts (descriptor : Descriptor) : Except Failure (List (Option CycleKey) × Nat × Nat) :=
      (store.join {} 1 oldestFirst descriptor).result.map fun outcome =>
        (outcome.rows.map CycleKey.ofRow?, outcome.statistics.drivingKept,
          outcome.statistics.rowsMerged)
    counts descriptor = .ok ([some ⟨"1", "1"⟩], 1, 1) ∧
      counts { descriptor with projection := [.floatId, .cycleNumber, .salinity] } =
        .ok ([], 0, 0) := by
  decide +kernel

end Join

end ArgoQuery
