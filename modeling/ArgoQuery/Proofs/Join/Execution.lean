import ArgoQuery.Join
import ArgoQuery.Proofs.Join.FetchOrder
import ArgoQuery.Proofs.Join.PositionIndex
import ArgoQuery.Proofs.Sorting.StableSort
import ArgoQuery.Proofs.Table.RowOrder

/-!
# What an execution comes to

An execution is settled by the answers of the store and by one order of the floats: that in which
their fetches end. `execute_ok` says so of a store that answers the driving select, and
`execute_error` of one that does not. How little depends on the order: the statistics are equal
(`statisticsOf_perm`), and so are the rows up to their sequence, as long as they can be sorted
(`rows_perm_of_resultOf`). Whether they can is all that can go wrong after the driving select, and
it cannot where the columns of the ordering are homogeneous (`isOk_resultOf_of_homogeneous`).
-/

namespace ArgoQuery.Join

section Parts

variable (store : Store) (names : CollectionNames) (descriptor : Descriptor)

/-- The select of the driving side. -/
def drivingSelect : Select := scopedSelect names descriptor descriptor.driving none

/-- The select of the dependent side for one float. -/
def dependentSelect (float : String) : Select :=
  scopedSelect names descriptor descriptor.dependent (some float)

/-- The driving rows; none if the store has no answer. -/
def drivingRows : List Row :=
  match store (drivingSelect names descriptor) with
  | .ok rows => rows
  | .error _ => []

/-- The driving rows that pass the residual conditions. -/
def keptRows : List Row :=
  (drivingRows store names descriptor).filter (survives descriptor descriptor.driving)

/-- The index of the kept rows. -/
def indexOf : KeyIndex := KeyIndex.ofRows (keptRows store names descriptor)

/-- The floats that are fetched, in ascending order. -/
def queried : List String := (indexOf store names descriptor).floats

/-- The answer to the fetch of a float. -/
def replyOf (float : String) : Reply := ⟨float, store (dependentSelect names descriptor float)⟩

/-- The rows that the fetch of a float adds to the result. -/
def contribution (float : String) : List Row :=
  (replyOf store names descriptor float).merged descriptor (indexOf store names descriptor)

/-- The names of the columns that rows are ordered by. -/
def orderingNames : List String := descriptor.ordering.map Column.name

/-- What is counted if the fetches of the floats end in the given order. -/
def statisticsOf (order : List String) : Statistics :=
  let index := indexOf store names descriptor
  { countReplies descriptor (drivingRows store names descriptor).length
      (keptRows store names descriptor).length index
      (order.map (replyOf store names descriptor)) with
    stage := if index.positions.isEmpty then .empty else .done }

/-- The result if the fetches of the floats end in the given order. -/
def resultOf (order : List String) : Except Failure Outcome :=
  match Row.sort? (orderingNames descriptor)
      (order.flatMap (contribution store names descriptor)) with
  | some rows => .ok ⟨rows, statisticsOf store names descriptor order⟩
  | none => .error .disorder

end Parts

section Execution

variable {store : Store} {names : CollectionNames} {descriptor : Descriptor}

/-- The index is that of the kept rows. -/
theorem indexes_indexOf :
    (indexOf store names descriptor).Indexes (keptRows store names descriptor) :=
  KeyIndex.indexes_ofRows _

/-- The floats that are fetched ascend. -/
theorem queried_ascending : (queried store names descriptor).Pairwise (· < ·) :=
  indexes_indexOf.ascending

/-- No float is fetched twice. -/
theorem queried_nodup : (queried store names descriptor).Nodup := by
  refine queried_ascending.imp ?_
  intro first second before same
  exact Std.lt_irrefl (same ▸ before : first < first)

/-- What the replies in an order add to the result is what their floats contribute. -/
theorem flatMap_merged_replyOf (order : List String) :
    (order.map (replyOf store names descriptor)).flatMap
        (·.merged descriptor (indexOf store names descriptor)) =
      order.flatMap (contribution store names descriptor) := by
  rw [List.flatMap_map]
  rfl

/-- There is an outcome exactly if the rows that the floats contribute can be sorted, and these are
then its rows. -/
theorem resultOf_eq_ok_iff {order : List String} {outcome : Outcome} :
    resultOf store names descriptor order = .ok outcome ↔
      Row.sort? (orderingNames descriptor)
          (order.flatMap (contribution store names descriptor)) = some outcome.rows ∧
        outcome.statistics = statisticsOf store names descriptor order := by
  rw [resultOf]
  cases Row.sort? (orderingNames descriptor)
      (order.flatMap (contribution store names descriptor)) with
  | none => simp
  | some rows =>
    obtain ⟨rows', statistics⟩ := outcome
    simp [eq_comm]

/-- After the driving select only the final sort can fail. -/
theorem eq_disorder_of_resultOf {order : List String} {failure : Failure}
    (failed : resultOf store names descriptor order = .error failure) : failure = .disorder := by
  rw [resultOf] at failed
  split at failed
  · cases failed
  · exact (Except.error.inj failed).symm

/-- Each float contributes its rows once. -/
theorem rows_perm_of_resultOf {order : List String} {outcome : Outcome}
    (perm : order.Perm (queried store names descriptor))
    (success : resultOf store names descriptor order = .ok outcome) :
    outcome.rows.Perm
      ((queried store names descriptor).flatMap (contribution store names descriptor)) :=
  (Sorting.sort?_perm _ (resultOf_eq_ok_iff.mp success).1).trans (perm.flatMap_right _)

/-- There is an outcome if every column of the ordering treats all rows that the floats contribute
alike. -/
theorem isOk_resultOf_of_homogeneous {order : List String}
    (perm : order.Perm (queried store names descriptor))
    (homogeneous : ∀ column ∈ orderingNames descriptor, Row.IsHomogeneous column
      ((queried store names descriptor).flatMap (contribution store names descriptor))) :
    ∃ outcome, resultOf store names descriptor order = .ok outcome := by
  have unsorted := perm.symm.flatMap_right (contribution store names descriptor)
  obtain ⟨rows, sorted, -⟩ := Sorting.sort?_arranges
    (Row.isOrderOn_of_homogeneous fun column member => (homogeneous column member).perm unsorted)
    _ fun _ member => member
  exact ⟨⟨rows, _⟩, resultOf_eq_ok_iff.mpr ⟨sorted, rfl⟩⟩

/-- An execution whose driving select is answered, by its parts. -/
theorem executeAlong_ok {fetched : List Row}
    (answered : store (drivingSelect names descriptor) = .ok fetched)
    (fetching : List String → List (FetchEvent String)) :
    executeAlong fetching store names descriptor =
      let opening : List (FetchEvent Select) :=
        [.asked (drivingSelect names descriptor), .answered (drivingSelect names descriptor)]
      let kept := (keptRows store names descriptor).length
      let index := indexOf store names descriptor
      let events := fetching (queried store names descriptor)
      if index.positions.isEmpty then ⟨opening, .ok (finishEmpty fetched.length kept)⟩
      else
        ⟨opening ++ events.map (·.map (dependentSelect names descriptor)),
          finish descriptor fetched.length kept index
            ((events.filterMap FetchEvent.answered?).map (replyOf store names descriptor))⟩ := by
  have kept : keptRows store names descriptor =
      fetched.filter (survives descriptor descriptor.driving) := by
    rw [keptRows, drivingRows, answered]
  rw [queried, indexOf, kept]
  rw [drivingSelect] at answered
  simp only [executeAlong, answered]
  rfl

/-- If the store answers the driving select, the result of the execution is that of an order of the
floats, as long as every fetch that is to be made ends once.

Without any position there is no float and nothing was replaced, so the result of no replies is that
of an empty index. -/
theorem executeAlong_ok_result {fetched : List Row}
    (answered : store (drivingSelect names descriptor) = .ok fetched)
    {fetching : List String → List (FetchEvent String)}
    (complete : ∀ floats, ((fetching floats).filterMap FetchEvent.answered?).Perm floats) :
    ∃ order, order.Perm (queried store names descriptor) ∧
      (executeAlong fetching store names descriptor).result =
        resultOf store names descriptor order := by
  have driving : drivingRows store names descriptor = fetched := by
    rw [drivingRows, answered]
  rw [executeAlong_ok answered]
  by_cases empty : (indexOf store names descriptor).positions.isEmpty = true
  · have no_positions := List.isEmpty_iff.mp empty
    obtain ⟨no_floats, none_replaced⟩ := indexes_indexOf.of_positions_isEmpty no_positions
    have no_rows : Row.sort? (orderingNames descriptor) [] = some [] := rfl
    have none_failed : ascending [] = [] := List.mergeSort_nil
    refine ⟨[], List.Perm.of_eq no_floats.symm, ?_⟩
    simp only [if_pos empty]
    simp only [resultOf, statisticsOf, countReplies, finishEmpty, driving, no_positions, no_floats,
      none_replaced, List.map_nil, List.filter_nil, List.flatMap_nil, no_rows, none_failed]
    rfl
  · refine ⟨_, complete _, ?_⟩
    simp only [if_neg empty, finish, resultOf, statisticsOf, driving, flatMap_merged_replyOf]
    rfl

/-- If the store answers the driving select, the result of the execution is that of an order of the
floats. -/
theorem execute_ok {fetched : List Row}
    (answered : store (drivingSelect names descriptor) = .ok fetched) (concurrency : Nat)
    (schedule : Schedule) :
    ∃ order, order.Perm (queried store names descriptor) ∧
      (execute store names concurrency schedule descriptor).result =
        resultOf store names descriptor order :=
  executeAlong_ok_result answered (FetchWindow.events_answered concurrency schedule)

/-- An execution whose driving select is not answered is over. -/
theorem executeAlong_error {cause : StoreError}
    (refused : store (drivingSelect names descriptor) = .error cause)
    (fetching : List String → List (FetchEvent String)) :
    executeAlong fetching store names descriptor =
      ⟨[.asked (drivingSelect names descriptor), .answered (drivingSelect names descriptor)],
        .error (.store (names.ofSide descriptor.driving) cause)⟩ := by
  rw [drivingSelect] at refused
  simp only [executeAlong, refused]
  rfl

/-- The events of a join: those of the driving select, then those of the floats. -/
theorem executeAlong_events {fetching : List String → List (FetchEvent String)}
    (idle : fetching [] = []) :
    (executeAlong fetching store names descriptor).events =
      .asked (drivingSelect names descriptor) :: .answered (drivingSelect names descriptor) ::
        (fetching (queried store names descriptor)).map
          (·.map (dependentSelect names descriptor)) := by
  have nothing (none_queried : queried store names descriptor = []) :
      (fetching (queried store names descriptor)).map
        (·.map (dependentSelect names descriptor)) = [] := by
    rw [none_queried, idle, List.map_nil]
  cases answer : store (drivingSelect names descriptor) with
  | error cause =>
    have none_kept : keptRows store names descriptor = [] := by
      rw [keptRows, drivingRows, answer, List.filter_nil]
    have none_queried : queried store names descriptor = [] := by
      rw [queried, indexOf, none_kept]
      rfl
    rw [nothing none_queried, executeAlong_error answer]
  | ok fetched =>
    rw [executeAlong_ok answer]
    by_cases empty : (indexOf store names descriptor).positions.isEmpty = true
    · rw [nothing (indexes_indexOf.of_positions_isEmpty (List.isEmpty_iff.mp empty)).1]
      simp only [if_pos empty]
    · simp only [if_neg empty]
      rfl

/-- The outcome of an execution is that of an order of the floats, as long as every fetch that is to
be made ends once. -/
theorem resultOf_of_executeAlong {fetching : List String → List (FetchEvent String)}
    (complete : ∀ floats, ((fetching floats).filterMap FetchEvent.answered?).Perm floats)
    {outcome : Outcome}
    (success : (executeAlong fetching store names descriptor).result = .ok outcome) :
    ∃ order, order.Perm (queried store names descriptor) ∧
      resultOf store names descriptor order = .ok outcome := by
  cases answered : store (drivingSelect names descriptor) with
  | error cause =>
    rw [executeAlong_error answered] at success
    cases success
  | ok fetched =>
    obtain ⟨order, perm, result⟩ := executeAlong_ok_result answered complete
    exact ⟨order, perm, result.symm.trans success⟩

/-- If the store does not answer the driving select, the execution fails with its collection, and
asks for nothing else. -/
theorem execute_error {cause : StoreError}
    (refused : store (drivingSelect names descriptor) = .error cause) (concurrency : Nat)
    (schedule : Schedule) :
    (execute store names concurrency schedule descriptor).result =
        .error (.store (names.ofSide descriptor.driving) cause) ∧
      (execute store names concurrency schedule descriptor).selects =
        [drivingSelect names descriptor] := by
  rw [execute, executeAlong_error refused]
  exact ⟨rfl, rfl⟩

/-- Texts in ascending order are the same however they were ordered before. -/
theorem ascending_perm {first second : List String} (perm : first.Perm second) :
    ascending first = ascending second := by
  have ordered (texts : List String) :
      (ascending texts).Pairwise fun left right => decide (left ≤ right) = true := by
    refine List.pairwise_mergeSort ?_ ?_ texts
    · intro left middle right one two
      exact decide_eq_true (Std.le_trans (of_decide_eq_true one) (of_decide_eq_true two))
    · intro left right
      simpa using @Std.le_total _ _ _ left right
  refine List.Perm.eq_of_pairwise ?_ (ordered first) (ordered second) ?_
  · intro left right _ _ one two
    exact Std.le_antisymm (of_decide_eq_true one) (of_decide_eq_true two)
  · exact (List.mergeSort_perm ..).trans (perm.trans (List.mergeSort_perm ..).symm)

/-- Texts that are in ascending order stay as they are. -/
theorem ascending_of_pairwise {texts : List String} (ordered : texts.Pairwise (· < ·)) :
    ascending texts = texts :=
  List.mergeSort_of_pairwise (ordered.imp fun before => decide_eq_true (Std.le_of_lt before))

/-- The floats that are reported are those whose fetches failed, in ascending order, whatever the
order in which their fetches ended. -/
theorem statisticsOf_floatsFailed {order : List String}
    (perm : order.Perm (queried store names descriptor)) :
    (statisticsOf store names descriptor order).floatsFailed =
      (queried store names descriptor).filter fun float =>
        (replyOf store names descriptor float).isFailure := by
  let fails (float : String) := (replyOf store names descriptor float).isFailure
  have failed : ((order.map (replyOf store names descriptor)).filter Reply.isFailure).map
      Reply.float = order.filter fails := by
    rw [List.filter_map, List.map_map]
    exact List.map_id _
  calc (statisticsOf store names descriptor order).floatsFailed
      = ascending (order.filter fails) := congrArg ascending failed
    _ = ascending ((queried store names descriptor).filter fails) :=
        ascending_perm (perm.filter fails)
    _ = (queried store names descriptor).filter fails :=
        ascending_of_pairwise (queried_ascending.filter fails)

/-- Another order of the replies changes none of the counts: each of them is a length or a sorted
list. -/
theorem statisticsOf_perm (store : Store) (names : CollectionNames) (descriptor : Descriptor)
    {first second : List String} (perm : first.Perm second) :
    statisticsOf store names descriptor first = statisticsOf store names descriptor second := by
  have replies := perm.map (replyOf store names descriptor)
  have failed := ascending_perm ((replies.filter Reply.isFailure).map Reply.float)
  have fetched := (replies.flatMap_right Reply.fetched).length_eq
  have retained := (replies.flatMap_right
    (Reply.retained descriptor (indexOf store names descriptor))).length_eq
  have merged := (replies.flatMap_right
    (Reply.merged descriptor (indexOf store names descriptor))).length_eq
  simp only [statisticsOf, countReplies, failed, fetched, retained, merged]

end Execution

end ArgoQuery.Join
