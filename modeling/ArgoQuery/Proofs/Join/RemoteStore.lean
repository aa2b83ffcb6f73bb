import ArgoQuery.Proofs.Join.FieldOrder
import ArgoQuery.Proofs.Join.RequestTrace
import ArgoQuery.Proofs.Rest.RowPayload

/-!
# A join over pages is the join over the collections

Main statement: `execute_remote`. A server that holds the collections of a store in memory, and that
answers every request for a page with the text of the rows that are asked for, as many as its cap
allows, makes no difference to a join: the same requests, the same statistics, and the same rows
with the same fields in the same order.

On the way the rows are cut into pages, written, read and put together again, and their fields come
back sorted by name. Of the numbers it is assumed that each is what its text stands for, and of the
transport nothing but its answers to the requests of this join. The budget of a fetch has to cover
the rows; how much larger it is does not matter.
-/

namespace ArgoQuery.Join

open Calendar (JulianRange)
open Geography (GeoBox)

section Selects

variable {store : Store} {names : CollectionNames} {descriptor : Descriptor}

/-- The selects of a join: the driving one, then one for each float that is fetched. -/
theorem selects_execute (concurrency : Nat) (schedule : Schedule) :
    (execute store names concurrency schedule descriptor).selects =
      drivingSelect names descriptor ::
        (queried store names descriptor).map (dependentSelect names descriptor) := by
  have idle : FetchWindow.events concurrency schedule ([] : List String) = [] :=
    (FetchWindow.trace_events concurrency schedule []).eq_nil
  have trace := (FetchWindow.trace_events concurrency schedule
    (queried store names descriptor)).map (dependentSelect names descriptor)
  rw [execute, Execution.selects, executeAlong_events idle]
  exact congrArg (drivingSelect names descriptor :: ·) trace.asked_eq

end Selects

section Rows

variable {names : CollectionNames} {descriptor : Descriptor} {side : Side} {float : Option String}
  {store : MemoryStore}

/-- The rows that a select of a join brings are cut down to its columns. -/
theorem evaluate_scopedSelect :
    store.evaluate (scopedSelect names descriptor side float) =
      (store.found (scopedSelect names descriptor side float)).map
        fun row => row.project (columnNames descriptor side) := rfl

/-- Their fields have distinct names, all of them columns. -/
theorem fields_of_mem_evaluate {row : Row}
    (member : row ∈ store.evaluate (scopedSelect names descriptor side float)) :
    (row.fields.map Prod.fst).Nodup ∧ ∀ name, (row.stored? name).isSome = true →
      name ∈ columnNames descriptor side := by
  rw [evaluate_scopedSelect] at member
  obtain ⟨source, -, rfl⟩ := List.mem_map.mp member
  refine ⟨Row.nodup_project source _, ?_⟩
  intro name holds
  rw [Row.stored?_project] at holds
  by_contra outside
  rw [if_neg outside] at holds
  cases holds

/-- Over pages a select of a join brings the rows that the store in memory has for it. -/
theorem toStore_scopedSelect {rest : RestStore} {transport : Http.Transport}
    {cap : Rest.PageRequest → Nat} {budget : Nat}
    (reads : ∀ collection ∈ store.collections, ∀ row ∈ collection.2, row.ReadsBack)
    (positive : 0 < rest.pageSize) (nonzero : 0 < budget)
    (enough : ∀ collection ∈ store.collections, collection.2.length < budget)
    (sent : rest.IsSent transport (scopedSelect names descriptor side float)
      ⟨store.evaluate (scopedSelect names descriptor side float), cap⟩) :
    rest.toStore transport budget (scopedSelect names descriptor side float) =
      .ok ((store.evaluate (scopedSelect names descriptor side float)).map Row.byName) := by
  have found := store.found_subperm (scopedSelect names descriptor side float)
  refine RestStore.toStore_of_isSent sent rfl positive ?_ ?_
  · intro row member
    rw [evaluate_scopedSelect] at member
    obtain ⟨source, held, rfl⟩ := List.mem_map.mp member
    have stored := found.subset held
    rcases store.rowsOf_eq_nil_or_mem (names.ofSide side) with nothing | collection
    · exact absurd (nothing ▸ stored) List.not_mem_nil
    · exact (reads _ collection source stored).project _
  · rw [evaluate_scopedSelect, List.length_map]
    refine found.length_le.trans_lt ?_
    rcases store.rowsOf_eq_nil_or_mem (names.ofSide side) with nothing | collection
    · exact nothing ▸ nonzero
    · exact enough _ collection

end Rows

/-- A join over the pages of a server is the join over the store whose collections it holds, if the
store can sort what each select asks for. It fails for the order of the merged rows only, and over
an orderly store it does not fail.

Both joins sort the same merged rows in the same order, so they stop together. -/
theorem execute_remote (collections : List (String × List Row)) (names : CollectionNames)
    (topic : Topic) (box : Option GeoBox) (range : Option JulianRange) (concurrency : Nat)
    (schedule : Schedule) (rest : RestStore) (transport : Http.Transport) (budget : Nat)
    (cap : Select → Rest.PageRequest → Nat)
    (reads : ∀ collection ∈ collections, ∀ row ∈ collection.2, row.ReadsBack)
    (positive : 0 < rest.pageSize) (nonzero : 0 < budget)
    (enough : ∀ collection ∈ collections, collection.2.length < budget)
    (sent : ∀ select ∈ (({ collections } : MemoryStore).join names concurrency schedule
      (Descriptor.ofTopic topic box range)).selects,
      ({ collections } : MemoryStore).halts select = false ∧
        rest.IsSent transport select
          ⟨({ collections } : MemoryStore).evaluate select, cap select⟩) :
    let store : MemoryStore := { collections }
    let descriptor := Descriptor.ofTopic topic box range
    execute (rest.toStore transport budget) names concurrency schedule descriptor =
        store.join names concurrency schedule descriptor ∧
      (∀ failure, (store.join names concurrency schedule descriptor).result = .error failure →
        failure = .disorder) ∧
      (store.IsOrderly names →
        ∃ outcome, (store.join names concurrency schedule descriptor).result = .ok outcome) := by
  intro store descriptor
  refine ⟨?_, fun _ => MemoryStore.failure_of_join, isOk_join_of_isOrderly⟩
  have answers : ∀ select, store.toStore select = .ok (store.evaluate select) :=
    MemoryStore.toStore_ok collections
  have whole : store.join names concurrency schedule descriptor =
      execute store.toStore names concurrency schedule descriptor := by
    refine haltedOn_eq_self_of_selects ?_ fun select member => (sent select member).1
    exact fun _ _ _ => asked_before_answered (FetchWindow.trace_events concurrency schedule)
  rw [whole]
  replace sent : ∀ select ∈ (execute store.toStore names concurrency schedule descriptor).selects,
      rest.IsSent transport select ⟨store.evaluate select, cap select⟩ := by
    rw [← whole]
    exact fun select member => (sent select member).2
  rw [selects_execute] at sent
  obtain ⟨sentDriving, sentDependent⟩ := List.forall_mem_cons.mp sent
  have driving := answers (drivingSelect names descriptor)
  have driving' := toStore_scopedSelect reads positive nonzero enough sentDriving
  have same {row : Row} (distinct : (row.fields.map Prod.fst).Nodup) : row.SameFields row.byName :=
    .of_perm (Row.byName_perm row).symm distinct
  have alike : ∀ row ∈ store.evaluate (drivingSelect names descriptor),
      row.SameFields row.byName :=
    fun row member => same (fields_of_mem_evaluate member).1
  have columns := projection_ofTopic topic box range
  refine executeAlong_arranged driving driving' alike (projection_nodup topic) ?_ ?_ ?_
  · intro name place
    exact columns ▸ List.mem_append_right _ place
  · intro float member
    have asked : dependentSelect names descriptor float ∈
        (queried store.toStore names descriptor).map (dependentSelect names descriptor) :=
      List.mem_map_of_mem member
    have arrived := toStore_scopedSelect reads positive nonzero enough (sentDependent _ asked)
    refine ⟨_, answers _, arrived, ?_⟩
    intro row held
    obtain ⟨distinct, within⟩ := fields_of_mem_evaluate held
    refine ⟨same distinct, fun name holds => ?_⟩
    exact columns ▸ List.mem_append_left _ (within name holds)
  · intro floats float member
    exact (FetchWindow.events_answered concurrency schedule floats).subset member

/-- Two positions and a measurement are fetched over pages of two rows, of which the server sends
one at a time at first. The merged row has its fields in the order of the projection, though they
came sorted by name. -/
theorem execute_over_short_pages :
    let position (cycle : Int64) : Row := .ofList [("float_id", .text "1"),
      ("cycle_number", .int cycle), ("latitude", .float (.ofDecimal false 105 (-1))),
      ("longitude", .int 70)]
    let measurement : Row := .ofList [("float_id", .text "1"), ("cycle_number", .int 1),
      ("pres_adjusted", .float (.ofDecimal false 25 (-1))), ("psal_adjusted", .int 35)]
    let store : MemoryStore :=
      { collections := [("float_locations", [position 2, position 1]),
          ("float_measurements", [measurement])] }
    let descriptor := Descriptor.ofTopic .salinity none none
    let rest : RestStore :=
      { base := "http://localhost", headers := [], pageSize := 2, healthCollection := "floats" }
    let server (select : Select) : Rest.PageServer :=
      ⟨store.evaluate select, fun request => if request.offset = 0 then 1 else 5⟩
    let text (select : Select) (offset : Nat) : String :=
      (Json.array (((server select).page ⟨2, offset⟩).map Row.toJson)).compact
    let transport : Http.Transport := fun request =>
      let select := if request.url.path = "/float_locations".toList then
        drivingSelect {} descriptor else dependentSelect {} descriptor "1"
      let lastDigit := (request.url.query.bind List.getLast?).getD '0'
      .ok ⟨200, text select (lastDigit.toNat - '0'.toNat)⟩
    (∀ collection ∈ store.collections, ∀ row ∈ collection.2, row.ReadsBack) ∧
      (∀ select ∈ (store.join {} 1 oldestFirst descriptor).selects,
        store.halts select = false ∧ rest.IsSent transport select (server select)) ∧
      (execute (rest.toStore transport 3) {} 1 oldestFirst descriptor).result.map Outcome.rows =
        .ok [⟨[("float_id", .text "1"), ("cycle_number", .int 1),
          ("pres_adjusted", .float (.ofDecimal false 25 (-1))), ("psal_adjusted", .int 35),
          ("latitude", .float (.ofDecimal false 105 (-1))), ("longitude", .int 70),
          ("juld", .null)]⟩] := by
  intro position measurement store descriptor rest server text transport
  let selects := [drivingSelect {} descriptor, dependentSelect {} descriptor "1"]
  have asked : (store.join {} 1 oldestFirst descriptor).selects = selects := by
    decide +kernel
  have none_halts : ∀ select ∈ selects, store.halts select = false := by
    decide +kernel
  have responses : ∀ select ∈ selects, ∀ offset ≤ 2,
      rest.respond transport select ⟨2, offset⟩ = .ok ⟨200, text select offset⟩ := by
    decide +kernel
  have sizes : ∀ select ∈ selects, (server select).rows.length ≤ 2 := by
    decide +kernel
  have merged : (store.join {} 1 oldestFirst descriptor).result.map Outcome.rows =
      .ok [⟨[("float_id", .text "1"), ("cycle_number", .int 1),
        ("pres_adjusted", .float (.ofDecimal false 25 (-1))), ("psal_adjusted", .int 35),
        ("latitude", .float (.ofDecimal false 105 (-1))), ("longitude", .int 70),
        ("juld", .null)]⟩] := by
    decide +kernel
  have reads : ∀ collection ∈ store.collections, ∀ row ∈ collection.2, row.ReadsBack := by
    decide +kernel
  have sent : ∀ select ∈ (store.join {} 1 oldestFirst descriptor).selects,
      store.halts select = false ∧ rest.IsSent transport select (server select) := by
    rw [asked]
    intro select member
    refine ⟨none_halts select member, ?_⟩
    constructor
    case generous =>
      intro request
      simp only [server]
      split_ifs <;> decide
    case pages =>
      intro offset inside
      exact ⟨_, responses select member offset (inside.trans (sizes select member)), rfl, rfl⟩
  obtain ⟨same, -, -⟩ := execute_remote store.collections {} .salinity none none 1
    oldestFirst rest transport 3 (fun select => (server select).cap) reads (by decide) (by decide)
    (by decide) sent
  exact ⟨reads, sent, (congrArg (fun execution => execution.result.map Outcome.rows) same).trans
    merged⟩

end ArgoQuery.Join
