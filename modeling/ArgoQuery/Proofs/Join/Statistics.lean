import ArgoQuery.Proofs.Join.RequestTrace
import Mathlib.Algebra.Order.BigOperators.Group.List
import Mathlib.Data.List.Perm.Subperm

/-!
# What a join counts

Main statement: `executeAlong_statistics`. Whatever a store answers, and in whichever order its
answers come, the counts of a join that has a result agree with each other, with the rows that were
kept and fetched and with the rows of the result.

The counts are taken in different places. That they agree rests on the index: its cycles by float
and its positions have the same keys. So no row that passes the test for a known cycle is without a
position (`Reply.merge?_isSome`), and there are no more floats than positions
(`KeyIndex.Indexes.length_floats_le`).
-/

namespace ArgoQuery.Join

namespace KeyIndex.Indexes

variable {rows : List Row} {index : KeyIndex}

/-- Every float of the index has a position. -/
theorem exists_position_of_float (indexed : Indexes rows index) {float : String}
    (member : float ∈ index.floats) :
    ∃ entry ∈ index.positions, entry.1.float = float := by
  obtain ⟨key, ofRow, rfl⟩ := List.mem_map.mp ((indexed.floats float).mp member)
  have found : (index.position? key).isSome = true := by
    rw [indexed.positions, Option.isSome_map]
    exact CycleKey.last?_isSome.mpr ofRow
  obtain ⟨entry, stored, same⟩ := List.lookup_isSome_iff.mp found
  exact ⟨entry, stored, congrArg CycleKey.float (eq_of_beq same).symm⟩

/-- There are no more floats than positions. -/
theorem length_floats_le (indexed : Indexes rows index) :
    index.floats.length ≤ index.positions.length := by
  have distinct : index.floats.Nodup := by
    refine indexed.ascending.imp ?_
    rintro first second before rfl
    exact Std.lt_irrefl before
  have covered : index.floats ⊆ index.positions.map fun entry => entry.1.float := by
    intro float member
    obtain ⟨entry, stored, rfl⟩ := indexed.exists_position_of_float member
    exact List.mem_map_of_mem stored
  have fewer := (List.subperm_of_subset distinct covered).length_le
  rwa [List.length_map] at fewer

end KeyIndex.Indexes

namespace Reply

variable {descriptor : Descriptor} {index : KeyIndex}

/-- The retained rows are some of the fetched ones. -/
theorem retained_sublist (descriptor : Descriptor) (index : KeyIndex) (reply : Reply) :
    (reply.retained descriptor index).Sublist reply.fetched :=
  List.filter_sublist.trans List.filter_sublist

/-- A row that is retained has a cycle of the float that was asked for. -/
theorem exists_cycle_of_retained {reply : Reply} {row : Row}
    (member : row ∈ reply.retained descriptor index) :
    ∃ cycle ∈ index.cyclesOf reply.float, row.key? Column.cycleNumber.name = some cycle := by
  have known := (List.mem_filter.mp member).2
  cases own : row.key? Column.cycleNumber.name with
  | none => simp [own] at known
  | some cycle =>
    rw [own] at known
    exact ⟨cycle, of_decide_eq_true known, rfl⟩

/-- Every row that is retained has a position. -/
theorem merge?_isSome {rows : List Row} (indexed : index.Indexes rows) {reply : Reply} {row : Row}
    (member : row ∈ reply.retained descriptor index) :
    (reply.merge? descriptor index row).isSome = true := by
  obtain ⟨cycle, known, own⟩ := exists_cycle_of_retained member
  obtain ⟨position, found⟩ := Option.isSome_iff_exists.mp (indexed.mem_cyclesOf.mp known)
  simp [merge?, own, found]

/-- Every row that is retained is merged. -/
theorem length_merged {rows : List Row} (indexed : index.Indexes rows) (reply : Reply) :
    (reply.merged descriptor index).length = (reply.retained descriptor index).length := by
  rw [merged, List.length_filterMap_eq_countP, List.countP_eq_length]
  intro row member
  exact merge?_isSome indexed member

end Reply

section Counts

variable (store : Store) (names : CollectionNames) (descriptor : Descriptor)

/-- The rows of a result are the retained ones, merged. -/
theorem statisticsOf_dependentRetained (order : List String) :
    (statisticsOf store names descriptor order).dependentRetained =
      (statisticsOf store names descriptor order).rowsMerged := by
  simp only [statisticsOf, countReplies, List.length_flatMap, Reply.length_merged indexes_indexOf]

/-- No more rows are retained than are fetched. -/
theorem statisticsOf_dependentRetained_le (order : List String) :
    (statisticsOf store names descriptor order).dependentRetained ≤
      (statisticsOf store names descriptor order).dependentFetched := by
  simp only [statisticsOf, countReplies, List.length_flatMap]
  refine List.sum_le_sum ?_
  intro reply _
  exact (Reply.retained_sublist ..).length_le

/-- The kept rows that have both keys are counted by their positions and by the positions that they
replaced. -/
theorem statisticsOf_keys (order : List String) :
    (statisticsOf store names descriptor order).distinctKeys +
        (statisticsOf store names descriptor order).duplicateKeys =
      (keptRows store names descriptor).countP fun row =>
        (row.key? Column.floatId.name).isSome && (row.key? Column.cycleNumber.name).isSome := by
  have hasKey (row : Row) : (CycleKey.ofRow? row).isSome =
      ((row.key? Column.floatId.name).isSome && (row.key? Column.cycleNumber.name).isSome) := by
    rw [CycleKey.ofRow?]
    cases row.key? Column.floatId.name <;> cases row.key? Column.cycleNumber.name <;> rfl
  have indexed : (indexOf store names descriptor).Indexes (keptRows store names descriptor) :=
    indexes_indexOf
  refine indexed.counted.trans ?_
  rw [List.length_filterMap_eq_countP]
  exact List.countP_congr fun row _ => by rw [hasKey]

/-- A join comes to an end before the fetches exactly if there is no key. -/
theorem statisticsOf_stage (order : List String) :
    (statisticsOf store names descriptor order).stage =
      if (statisticsOf store names descriptor order).distinctKeys = 0 then .empty
      else .done := by
  simp only [statisticsOf, countReplies, List.isEmpty_iff, List.length_eq_zero_iff]

variable {store names descriptor}

/-- The rows of an outcome are as many as were merged: sorting keeps all of them. -/
theorem statisticsOf_rowsMerged {order : List String} {outcome : Outcome}
    (success : resultOf store names descriptor order = .ok outcome) :
    (statisticsOf store names descriptor order).rowsMerged = outcome.rows.length := by
  rw [(Sorting.sort?_perm _ (resultOf_eq_ok_iff.mp success).1).length_eq, ← flatMap_merged_replyOf]
  rfl

/-- Without any key there are no floats to fetch and no rows. -/
theorem nothing_of_no_keys {order : List String} {outcome : Outcome}
    (perm : order.Perm (queried store names descriptor))
    (success : resultOf store names descriptor order = .ok outcome)
    (none_indexed : (statisticsOf store names descriptor order).distinctKeys = 0) :
    (statisticsOf store names descriptor order).floatsQueried = 0 ∧ outcome.rows = [] := by
  have no_positions : (indexOf store names descriptor).positions = [] :=
    List.length_eq_zero_iff.mp none_indexed
  have no_floats : queried store names descriptor = [] :=
    (indexes_indexOf.of_positions_isEmpty no_positions).1
  refine ⟨congrArg List.length no_floats, ?_⟩
  have rows := rows_perm_of_resultOf perm success
  rw [no_floats] at rows
  exact rows.eq_nil

end Counts

/-- Whatever the store answers, and in whichever order, the statistics of a join that has a result
agree with each other and with its rows.

The floats that are counted are those that were asked for, and every failed one is one of them. The
last two parts are about the index: its cycles by float and its positions have the same keys, so no
retained row is dropped for want of a position.

The counts are those of one order of the floats. So each law is one about the index, which is built
row by row, or about the replies, each of which has failed or retains some of the rows that it
brings. -/
theorem executeAlong_statistics (store : Store) (names : CollectionNames)
    (descriptor : Descriptor) (concurrency : Nat)
    (fetching : List String → List (FetchEvent String))
    (buffered : ∀ floats, FetchWindow.Trace (max 1 concurrency) ⟨floats, []⟩ (fetching floats))
    (outcome : Outcome)
    (success : (executeAlong fetching store names descriptor).result = .ok outcome) :
    let index := indexOf store names descriptor
    let floats := queried store names descriptor
    let counts := outcome.statistics
    (executeAlong fetching store names descriptor).selects =
        drivingSelect names descriptor :: floats.map (dependentSelect names descriptor) ∧
      counts.drivingKept ≤ counts.drivingFetched ∧
      counts.distinctKeys + counts.duplicateKeys =
        (keptRows store names descriptor).countP (fun row =>
          (row.key? Column.floatId.name).isSome && (row.key? Column.cycleNumber.name).isSome) ∧
      counts.floatsQueried = floats.length ∧
      counts.floatsQueried ≤ counts.distinctKeys ∧
      counts.floatsFailed.Pairwise
        (fun first second => Text.bytes first < Text.bytes second) ∧
      counts.floatsFailed ⊆ floats ∧
      counts.dependentRetained = counts.rowsMerged ∧
      counts.rowsMerged = outcome.rows.length ∧
      outcome.rows.length ≤ counts.dependentFetched ∧
      (counts.stage = .empty ↔ counts.distinctKeys = 0) ∧
      (counts.distinctKeys = 0 → counts.floatsQueried = 0 ∧ outcome.rows = []) ∧
      (counts.distinctKeys ≠ 0 → counts.stage = .done) ∧
      (∀ float cycle, cycle ∈ index.cyclesOf float ↔
        (index.position? ⟨float, cycle⟩).isSome = true) ∧
      ∀ reply : Reply, ∀ row ∈ reply.retained descriptor index,
        (reply.merge? descriptor index row).isSome = true := by
  intro index floats counts
  have idle : fetching [] = [] := (buffered []).eq_nil
  obtain ⟨order, perm, result⟩ :=
    resultOf_of_executeAlong (fun floats => (buffered floats).answered_perm) success
  have selects : (executeAlong fetching store names descriptor).selects =
      drivingSelect names descriptor :: floats.map (dependentSelect names descriptor) := by
    have asked := ((buffered floats).map (dependentSelect names descriptor)).asked_eq
    rw [Execution.selects, executeAlong_events idle]
    exact congrArg (drivingSelect names descriptor :: ·) asked
  have counted : counts = statisticsOf store names descriptor order :=
    (resultOf_eq_ok_iff.mp result).2
  have failed : counts.floatsFailed = floats.filter _ :=
    counted ▸ statisticsOf_floatsFailed perm
  have merged : counts.rowsMerged = outcome.rows.length := counted ▸ statisticsOf_rowsMerged result
  have retained : counts.dependentRetained = counts.rowsMerged :=
    counted ▸ statisticsOf_dependentRetained store names descriptor order
  have fetched : counts.dependentRetained ≤ counts.dependentFetched :=
    counted ▸ statisticsOf_dependentRetained_le store names descriptor order
  have stage : counts.stage = if counts.distinctKeys = 0 then .empty else .done :=
    counted ▸ statisticsOf_stage store names descriptor order
  refine ⟨selects, ?_, ?_, ?_, ?_, ?_, ?_, retained, merged, ?_, ?_, ?_, ?_,
    fun _ _ => indexes_indexOf.mem_cyclesOf, fun _ _ => Reply.merge?_isSome indexes_indexOf⟩
  · rw [counted]
    exact List.length_filter_le ..
  · rw [counted]
    exact statisticsOf_keys store names descriptor order
  · rw [counted]
    rfl
  · rw [counted]
    exact indexes_indexOf.length_floats_le
  · rw [failed]
    exact (queried_ascending.filter _).imp Text.bytes_lt_bytes
  · rw [failed]
    exact List.filter_sublist.subset
  · rw [← merged, ← retained]
    exact fetched
  · rw [stage]
    split_ifs with none_indexed <;> simp [none_indexed]
  · rw [counted]
    exact nothing_of_no_keys perm result
  · intro some_indexed
    rw [stage, if_neg some_indexed]

/-- Five kept rows of four floats: a position that is replaced, a row without a cycle, a fetch that
fails and a measurement of a cycle that has no position. -/
theorem execute_counts_three_floats :
    let position (float : String) (cycle : Int64) : Row := .ofList [("float_id", .text float),
      ("cycle_number", .int cycle), ("latitude", .int 10), ("longitude", .int 70)]
    let adrift : Row := .ofList [("float_id", .text "7"), ("latitude", .int 10),
      ("longitude", .int 70)]
    let measurement (float : String) (cycle : Int64) : Row := .ofList [("float_id", .text float),
      ("cycle_number", .int cycle), ("pres_adjusted", .int 5), ("psal_adjusted", .int 35)]
    let store := MemoryStore.toStore {
      collections := [
        ("float_locations", [position "3" 1, adrift, position "10" 1, position "3" 1,
          position "2" 4]),
        ("float_measurements", [measurement "3" 1, measurement "3" 9, measurement "10" 1])]
      failingFloats := ["2"] }
    let descriptor := Descriptor.ofTopic .salinity none none
    let joined (float : String) : Row := .ofList [("float_id", .text float),
      ("cycle_number", .int 1), ("pres_adjusted", .int 5), ("psal_adjusted", .int 35),
      ("latitude", .int 10), ("longitude", .int 70), ("juld", .null)]
    let outcome : Outcome :=
      { rows := [joined "3", joined "10"]
        statistics := {
          drivingFetched := 5
          drivingKept := 5
          distinctKeys := 3
          duplicateKeys := 1
          floatsQueried := 3
          floatsFailed := ["2"]
          dependentFetched := 3
          dependentRetained := 2
          rowsMerged := 2
          stage := .done } }
    let fetching : List String → List (FetchEvent String) := FetchWindow.events 2 fun _ => 1
    (∀ floats, FetchWindow.Trace (max 1 2) ⟨floats, []⟩ (fetching floats)) ∧
      (executeAlong fetching store {} descriptor).result = .ok outcome ∧
      (executeAlong fetching store {} descriptor).selects = drivingSelect {} descriptor ::
        (queried store {} descriptor).map (dependentSelect {} descriptor) ∧
      ["2"] ⊆ queried store {} descriptor ∧
      (keptRows store {} descriptor).countP (fun row =>
        (row.key? Column.floatId.name).isSome &&
          (row.key? Column.cycleNumber.name).isSome) = 4 := by
  intro position adrift measurement store descriptor joined outcome fetching
  have buffered (floats : List String) :
      FetchWindow.Trace (max 1 2) ⟨floats, []⟩ (fetching floats) :=
    FetchWindow.trace_events 2 _ floats
  have success : (executeAlong fetching store {} descriptor).result = .ok outcome := by
    decide +kernel
  obtain ⟨selects, -, keyed, -, -, -, failed, -⟩ :=
    executeAlong_statistics store {} descriptor 2 fetching buffered outcome success
  exact ⟨buffered, success, selects, failed, keyed.symm⟩

end ArgoQuery.Join
