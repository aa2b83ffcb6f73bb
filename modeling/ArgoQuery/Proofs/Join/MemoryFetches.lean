import ArgoQuery.Join.Memory
import ArgoQuery.Proofs.Join.Execution
import Mathlib.Data.List.TakeWhile

/-!
# What a store in memory answers a join

A store in memory fails where it was told to, stops the program where rows cannot be sorted, and
answers everything else. `toStore_ok` says so of a store that was told nothing. One that fails on
single floats finds them by the filters of a select: a fetch starts with the filter that asks for
its float, and no other filter of a join asks for one.

Whether anything stops the program is settled by the driving select and the fetches: `join_ok` and
`join_eq_execute`. Nothing does where the columns that the selects are sorted by are homogeneous.
-/

namespace ArgoQuery

namespace MemoryStore

/-- The stored rows that a select finds; none if they cannot be sorted. -/
def found (store : MemoryStore) (select : Select) : List Row := (store.found? select).getD []

/-- The rows that a select returns; none if they cannot be sorted. -/
def evaluate (store : MemoryStore) (select : Select) : List Row :=
  (store.found select).map select.projectRow

/-- No float of a store without failures fails. -/
theorem failingFloat?_ofCollections (collections : List (String × List Row)) (select : Select) :
    ({ collections } : MemoryStore).failingFloat? select = none := by
  refine List.findSome?_eq_none_iff.mpr ?_
  intro filter _
  cases filter <;> simp

/-- A store without failures has an answer to a select exactly if it can sort what it finds. -/
theorem answer?_ofCollections (collections : List (String × List Row)) (select : Select) :
    ({ collections } : MemoryStore).answer? select =
      (({ collections } : MemoryStore).found? select).map
        fun rows => .ok (rows.map select.projectRow) := by
  rw [answer?, if_neg List.not_mem_nil, failingFloat?_ofCollections]

/-- A store without failures answers every select. -/
theorem toStore_ok (collections : List (String × List Row)) (select : Select) :
    ({ collections } : MemoryStore).toStore select =
      .ok (({ collections } : MemoryStore).evaluate select) := by
  rw [toStore, answer?_ofCollections, evaluate, found]
  cases ({ collections } : MemoryStore).found? select <;> rfl

/-- A store answers a select that it is not told to fail on like one without failures. -/
theorem toStore_eq_of_sound {store : MemoryStore} {select : Select}
    (available : select.collection ∉ store.failingCollections)
    (sound : store.failingFloat? select = none) :
    store.toStore select = ({ collections := store.collections } : MemoryStore).toStore select := by
  rw [toStore, answer?, if_neg available, sound, toStore, answer?_ofCollections]
  rfl

/-- What a store answers to a select, with failures or without, are the rows that the select
returns. -/
theorem eq_evaluate_of_toStore {store : MemoryStore} {select : Select} {rows : List Row}
    (answer : store.toStore select = .ok rows) : rows = store.evaluate select := by
  rw [toStore, answer?] at answer
  rw [evaluate, found]
  split_ifs at answer
  · cases answer
  · split at answer
    · cases answer
    · cases finds : store.found? select with
      | none =>
        rw [finds] at answer
        exact (Except.ok.inj answer).symm
      | some found =>
        rw [finds] at answer
        exact (Except.ok.inj answer).symm

/-- A select stops the program over a store without failures exactly if it cannot be sorted. -/
@[simp]
theorem halts_ofCollections (collections : List (String × List Row)) (select : Select) :
    ({ collections } : MemoryStore).halts select =
      (({ collections } : MemoryStore).found? select).isNone := by
  rw [halts, answer?_ofCollections, Option.isNone_map]

/-- The rows of a collection are stored under its name, unless there are none. -/
theorem rowsOf_eq_nil_or_mem (store : MemoryStore) (name : String) :
    store.rowsOf name = [] ∨ (name, store.rowsOf name) ∈ store.collections := by
  rw [rowsOf]
  cases found : store.collections.lookup name with
  | none => exact .inl rfl
  | some rows =>
    obtain ⟨before, after, whole, -⟩ := List.lookup_eq_some_iff.mp found
    rw [whole]
    exact .inr (List.mem_append_right _ List.mem_cons_self)

/-- The rows that a select sorts are the stored ones that it admits. -/
theorem exists_perm_of_found? {store : MemoryStore} {select : Select} {rows : List Row}
    (finds : store.found? select = some rows) :
    ∃ sorted, sorted.Perm ((store.rowsOf select.collection).filter select.admits) ∧
      rows = match select.limit with
        | some limit => sorted.take limit
        | none => sorted := by
  obtain ⟨sorted, sorting, rfl⟩ := Option.map_eq_some_iff.mp finds
  refine ⟨sorted, ?_, rfl⟩
  split_ifs at sorting
  · obtain rfl := Option.some.inj sorting
    exact List.Perm.refl _
  · exact Sorting.sort?_perm _ sorting

/-- A select that can be sorted finds the stored rows that it admits, if it has no limit. -/
theorem found_perm {store : MemoryStore} {select : Select} (unlimited : select.limit = none)
    (sorts : (store.found? select).isSome = true) :
    (store.found select).Perm ((store.rowsOf select.collection).filter select.admits) := by
  obtain ⟨rows, finds⟩ := Option.isSome_iff_exists.mp sorts
  obtain ⟨sorted, perm, rfl⟩ := exists_perm_of_found? finds
  rw [found, finds, Option.getD_some, unlimited]
  exact perm

/-- A select finds rows that it admits, each of them as often as it is stored at most. -/
theorem found_subperm_filter (store : MemoryStore) (select : Select) :
    (store.found select).Subperm ((store.rowsOf select.collection).filter select.admits) := by
  rw [found]
  cases finds : store.found? select with
  | none => exact List.nil_subperm
  | some rows =>
    obtain ⟨sorted, perm, rfl⟩ := exists_perm_of_found? finds
    rw [Option.getD_some]
    cases select.limit with
    | none => exact perm.subperm
    | some limit => exact (List.take_sublist ..).subperm.trans perm.subperm

/-- A select finds stored rows, each of them as often as it is stored at most. -/
theorem found_subperm (store : MemoryStore) (select : Select) :
    (store.found select).Subperm (store.rowsOf select.collection) :=
  (store.found_subperm_filter select).trans List.filter_sublist.subperm

/-- A select can be sorted if every column of its order treats all stored rows alike. -/
theorem isSome_found?_of_homogeneous {store : MemoryStore} {select : Select}
    (homogeneous : ∀ column ∈ select.order,
      Row.IsHomogeneous column (store.rowsOf select.collection)) :
    (store.found? select).isSome = true := by
  rw [found?, Option.isSome_map]
  split_ifs
  · rfl
  · obtain ⟨rows, sorted, -⟩ := Sorting.sort?_arranges
      (Row.isOrderOn_of_homogeneous fun column member =>
        (homogeneous column member).of_subset fun row admitted => (List.mem_filter.mp admitted).1)
      ((store.rowsOf select.collection).filter select.admits) fun _ member => member
    rw [Row.sort?, sorted]
    rfl

/-- A filter that does not ask for a key makes no float fail. -/
theorem failingFloat?_eq_none {store : MemoryStore} {select : Select}
    (others : ∀ filter ∈ select.filters, ∀ column key, filter ≠ .equal column key) :
    store.failingFloat? select = none := by
  refine List.findSome?_eq_none_iff.mpr ?_
  intro filter member
  cases filter with
  | equal column key => exact absurd rfl (others _ member column key)
  | notNull column => rfl
  | atLeast column bound => rfl
  | atMost column bound => rfl

end MemoryStore

namespace Join

variable {names : CollectionNames} {descriptor : Descriptor}

/-- No condition is pushed as a filter that asks for a key. -/
theorem ne_equal_of_mem_pushed {conditions : List Condition} {filter : Filter}
    (member : filter ∈ conditions.flatMap pushed) (column key : String) :
    filter ≠ .equal column key := by
  obtain ⟨condition, -, isPushed⟩ := List.mem_flatMap.mp member
  cases condition with
  | notNull own =>
    rw [List.mem_singleton.mp isPushed]
    exact Filter.noConfusion
  | between own min max upper =>
    rcases List.mem_pair.mp isPushed with rfl | rfl <;> exact Filter.noConfusion
  | wrapped own start stop => cases isPushed

/-- The driving select asks for no float that could fail. -/
theorem failingFloat?_drivingSelect (store : MemoryStore) :
    store.failingFloat? (drivingSelect names descriptor) = none :=
  MemoryStore.failingFloat?_eq_none fun _ member => ne_equal_of_mem_pushed member

/-- The fetch of a float fails if the float is one that the store was told to fail on. -/
theorem failingFloat?_dependentSelect (store : MemoryStore) (float : String) :
    store.failingFloat? (dependentSelect names descriptor float) =
      if float ∈ store.failingFloats then some float else none := by
  let rest : Select :=
    { collection := names.ofSide descriptor.dependent
      filters := ((descriptor.conditionsOn descriptor.dependent).filter
        Condition.isPushable).flatMap pushed }
  have others : store.failingFloat? rest = none :=
    MemoryStore.failingFloat?_eq_none fun _ member => ne_equal_of_mem_pushed member
  have first : store.failingFloat? (dependentSelect names descriptor float) =
      (if float ∈ store.failingFloats then some float else none).or
        (store.failingFloat? rest) := by
    rw [MemoryStore.failingFloat?, dependentSelect, scopedSelect]
    simp only [Option.toList_some, List.map_cons, List.map_nil, List.cons_append, List.nil_append,
      List.findSome?_cons]
    by_cases fails : float ∈ store.failingFloats
    · rw [if_pos ⟨rfl, fails⟩, if_pos fails]
      rfl
    · rw [if_neg fun both => fails both.2, if_neg fails]
      rfl
  rw [first, others, Option.or_none]

/-- An execution that answers stop has a result exactly if none of its answers stops it and it has
the result anyway. -/
theorem result_haltedOn_eq_ok_iff {halts : Select → Bool} {execution : Execution}
    {outcome : Outcome} :
    (execution.haltedOn halts).result = .ok outcome ↔
      (∀ select ∈ execution.events.filterMap FetchEvent.answered?, halts select = false) ∧
        execution.result = .ok outcome := by
  rw [Execution.haltedOn]
  split_ifs with stopped
  · obtain ⟨select, answered, stops⟩ := List.any_eq_true.mp stopped
    refine iff_of_false (by simp) ?_
    rintro ⟨none_stops, -⟩
    exact absurd stops (by simp [none_stops select answered])
  · refine (and_iff_right ?_).symm
    intro select answered
    rw [← Bool.not_eq_true]
    exact fun stops => stopped (List.any_eq_true.mpr ⟨select, answered, stops⟩)

/-- An execution none of whose answers stops it goes on as it is. -/
theorem haltedOn_eq_self {halts : Select → Bool} {execution : Execution}
    (none_stops : ∀ select ∈ execution.events.filterMap FetchEvent.answered?,
      halts select = false) : execution.haltedOn halts = execution := by
  rw [Execution.haltedOn, if_neg]
  intro stopped
  obtain ⟨select, answered, stops⟩ := List.any_eq_true.mp stopped
  exact absurd stops (by simp [none_stops select answered])

/-- An execution goes on as it is if none of the requests that are left of it would stop it, as long
as every request is made before it is answered: the first answer that stops an execution is the
answer to a request that is left of it. -/
theorem haltedOn_eq_self_of_selects {halts : Select → Bool} {execution : Execution}
    (asked : ∀ before select later, execution.events = before ++ .answered select :: later →
      select ∈ before.filterMap FetchEvent.asked?)
    (none_stops : ∀ select ∈ (execution.haltedOn halts).selects, halts select = false) :
    execution.haltedOn halts = execution := by
  refine haltedOn_eq_self ?_
  intro select answered
  rw [← Bool.not_eq_true]
  intro stops
  have stopped : (execution.events.filterMap FetchEvent.answered?).any halts = true :=
    List.any_eq_true.mpr ⟨select, answered, stops⟩
  let goesOn (event : FetchEvent Select) : Bool := !event.answered?.any halts
  have left : (execution.haltedOn halts).selects =
      (execution.events.takeWhile goesOn).filterMap FetchEvent.asked? := by
    rw [Execution.haltedOn, if_pos stopped, Execution.selects]
  have cut : execution.events.takeWhile goesOn ++ execution.events.dropWhile goesOn =
      execution.events := List.takeWhile_append_dropWhile
  cases rest : execution.events.dropWhile goesOn with
  | nil =>
    obtain ⟨event, happened, answers⟩ := List.mem_filterMap.mp answered
    have passes := List.dropWhile_eq_nil_iff.mp rest event happened
    simp [goesOn, answers, stops] at passes
  | cons event later =>
    have first : goesOn event = false := by
      have head := List.head_dropWhile_not goesOn (l := execution.events) (by simp [rest])
      simpa [rest] using head
    rw [rest] at cut
    cases event with
    | asked request => simp [goesOn, FetchEvent.answered?] at first
    | answered request =>
      have made := asked _ request later cut.symm
      have quiet := none_stops request (left ▸ made)
      simp [goesOn, FetchEvent.answered?, quiet] at first

/-- An execution that is stopped fails for the order of rows; otherwise it fails as it would. -/
theorem failure_of_haltedOn {halts : Select → Bool} {execution : Execution} {failure : Failure}
    (failed : (execution.haltedOn halts).result = .error failure) :
    failure = .disorder ∨ execution.result = .error failure := by
  rw [Execution.haltedOn] at failed
  split_ifs at failed
  · exact .inl (Except.error.inj failed).symm
  · exact .inr failed

/-- Every request of a join is made before it is answered. -/
theorem asked_before_answered {store : Store} {fetching : List String → List (FetchEvent String)}
    {concurrency : Nat}
    (buffered : ∀ floats, FetchWindow.Trace concurrency ⟨floats, []⟩ (fetching floats))
    {before later : List (FetchEvent Select)} {select : Select}
    (events : (executeAlong fetching store names descriptor).events =
      before ++ .answered select :: later) :
    select ∈ before.filterMap FetchEvent.asked? := by
  have trace := (buffered (queried store names descriptor)).map (dependentSelect names descriptor)
  rw [executeAlong_events (buffered []).eq_nil] at events
  rcases before with - | ⟨first, - | ⟨second, before⟩⟩
  · cases (List.cons.inj events).1
  · obtain ⟨rfl, rest⟩ := List.cons.inj events
    cases (List.cons.inj rest).1
    exact List.mem_cons_self
  · obtain ⟨rfl, rest⟩ := List.cons.inj events
    obtain ⟨rfl, fetches⟩ := List.cons.inj rest
    have start : before ++ [.answered select] <+: (fetching (queried store names descriptor)).map
        (·.map (dependentSelect names descriptor)) := by
      rw [fetches]
      exact ⟨later, by simp⟩
    obtain ⟨pending, -, perm⟩ := trace.unanswered_le start
    have made : select ∈ (before ++ [FetchEvent.answered select]).filterMap FetchEvent.asked? :=
      perm.mem_iff.mp (by simp [FetchEvent.answered?])
    rw [List.filterMap_append] at made
    simp only [FetchEvent.asked?, List.filterMap_cons, List.filterMap_nil, List.append_nil] at made
    exact List.mem_cons_of_mem _ made

/-- The requests of a join are answered: the driving select, and the fetch of every float. -/
theorem mem_answered_executeAlong_iff {store : Store}
    {fetching : List String → List (FetchEvent String)} {concurrency : Nat}
    (buffered : ∀ floats, FetchWindow.Trace concurrency ⟨floats, []⟩ (fetching floats))
    {select : Select} :
    select ∈ (executeAlong fetching store names descriptor).events.filterMap
        FetchEvent.answered? ↔
      select = drivingSelect names descriptor ∨
        ∃ float ∈ queried store names descriptor,
          dependentSelect names descriptor float = select := by
  have trace := (buffered (queried store names descriptor)).map (dependentSelect names descriptor)
  rw [executeAlong_events (buffered []).eq_nil]
  simp only [List.filterMap_cons, FetchEvent.answered?, List.mem_cons, trace.answered_perm.mem_iff,
    List.mem_map]

end Join

namespace MemoryStore

open Join (FetchEvent FetchWindow drivingSelect dependentSelect queried)

variable {store : MemoryStore} {names : CollectionNames} {descriptor : Descriptor}
  {fetching : List String → List (FetchEvent String)} {concurrency : Nat}

/-- A join over a store in memory that has an outcome has that of the join over its answers, and
neither the driving select nor any fetch stops the program. -/
theorem joinAlong_ok
    (buffered : ∀ floats, FetchWindow.Trace concurrency ⟨floats, []⟩ (fetching floats))
    {outcome : Join.Outcome}
    (success : (store.joinAlong fetching names descriptor).result = .ok outcome) :
    (Join.executeAlong fetching store.toStore names descriptor).result = .ok outcome ∧
      store.halts (drivingSelect names descriptor) = false ∧
      ∀ float ∈ queried store.toStore names descriptor,
        store.halts (dependentSelect names descriptor float) = false := by
  obtain ⟨none_stops, result⟩ := Join.result_haltedOn_eq_ok_iff.mp success
  refine ⟨result, none_stops _ ((Join.mem_answered_executeAlong_iff buffered).mpr (.inl rfl)), ?_⟩
  intro float member
  exact none_stops _ ((Join.mem_answered_executeAlong_iff buffered).mpr (.inr ⟨float, member, rfl⟩))

/-- A join over a store in memory is the join over its answers if neither the driving select nor any
fetch stops the program. -/
theorem joinAlong_eq_executeAlong
    (buffered : ∀ floats, FetchWindow.Trace concurrency ⟨floats, []⟩ (fetching floats))
    (driving : store.halts (drivingSelect names descriptor) = false)
    (dependent : ∀ float ∈ queried store.toStore names descriptor,
      store.halts (dependentSelect names descriptor float) = false) :
    store.joinAlong fetching names descriptor =
      Join.executeAlong fetching store.toStore names descriptor := by
  refine Join.haltedOn_eq_self ?_
  intro select answered
  rcases (Join.mem_answered_executeAlong_iff buffered).mp answered with rfl | ⟨float, member, rfl⟩
  · exact driving
  · exact dependent float member

/-- A join over a store without failures fails for the order of rows only. -/
theorem failure_of_join {collections : List (String × List Row)} {schedule : Join.Schedule}
    {failure : Join.Failure}
    (failed : (({ collections } : MemoryStore).join names concurrency schedule descriptor).result =
      .error failure) : failure = .disorder := by
  rcases Join.failure_of_haltedOn failed with stopped | failed
  · exact stopped
  · obtain ⟨order, -, result⟩ := Join.execute_ok
      (toStore_ok collections (drivingSelect names descriptor)) concurrency schedule
    exact Join.eq_disorder_of_resultOf (result.symm.trans failed)

/-- Whether every column that the rows of a side are sorted by treats all its stored rows alike. -/
def IsOrderly (store : MemoryStore) (names : CollectionNames) : Prop :=
  ∀ side, ∀ column ∈ (Join.pagingOrder side).map Column.name,
    Row.IsHomogeneous column (store.rowsOf (names.ofSide side))

/-- A join over an orderly store without failures has an outcome if every column of the ordering
treats all rows that the floats contribute alike. No select stops it then, and the final sort does
not either. -/
theorem isOk_join_of_homogeneous {collections : List (String × List Row)} (concurrency : Nat)
    (schedule : Join.Schedule) (orderly : IsOrderly { collections } names)
    (merged : ∀ column ∈ Join.orderingNames descriptor, Row.IsHomogeneous column
      ((queried (toStore { collections }) names descriptor).flatMap
        (Join.contribution (toStore { collections }) names descriptor))) :
    ∃ outcome, (join { collections } names concurrency schedule descriptor).result =
      .ok outcome := by
  have none_halts (side : Side) (float : Option String) :
      halts { collections } (Join.scopedSelect names descriptor side float) = false := by
    rw [halts_ofCollections, Option.isNone_eq_false_iff]
    exact isSome_found?_of_homogeneous (orderly side)
  have whole : join { collections } names concurrency schedule descriptor =
      Join.execute (toStore { collections }) names concurrency schedule descriptor :=
    joinAlong_eq_executeAlong (FetchWindow.trace_events concurrency schedule)
      (none_halts _ none) fun float _ => none_halts _ (some float)
  obtain ⟨order, perm, result⟩ := Join.execute_ok
    (toStore_ok collections (drivingSelect names descriptor)) concurrency schedule
  obtain ⟨outcome, ordered⟩ := Join.isOk_resultOf_of_homogeneous perm merged
  exact ⟨outcome, by rw [whole, result, ordered]⟩

end MemoryStore

end ArgoQuery
