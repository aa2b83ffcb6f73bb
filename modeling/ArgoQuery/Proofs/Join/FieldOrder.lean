import ArgoQuery.Proofs.Join.InnerJoin

/-!
# A join does not see in which order rows have their fields

Main statement: `executeAlong_arranged`. If one store answers a join with the rows of another, each
with its fields in some other order, the executions are the same: the same requests in the same
order, the same statistics and the same rows, field by field.

A row is only asked what it holds under a name, except where it is merged. There its fields are put
in the order of the projection, and as the projection has a place for each of them, nothing is left
of the order in which they came (`reorder_onto`).
-/

namespace ArgoQuery

/-- Whether two rows hold the same under every name, no name occurring twice. -/
structure Row.SameFields (row other : Row) : Prop where
  distinct : (row.fields.map Prod.fst).Nodup
  distinct' : (other.fields.map Prod.fst).Nodup
  held : row.stored? = other.stored?

namespace Row.SameFields

variable {row other : Row}

/-- Rows whose fields are the same in another order have the same fields, if no name is repeated. -/
theorem of_perm (perm : row.fields.Perm other.fields)
    (distinct : (row.fields.map Prod.fst).Nodup) : row.SameFields other where
  distinct := distinct
  distinct' := (perm.map Prod.fst).nodup_iff.mp distinct
  held := funext fun name => stored?_perm perm distinct name

section Reading

variable (same : row.SameFields other)

include same

/-- Rows with the same fields hold the same under every name. -/
theorem get?_eq (name : String) : row.get? name = other.get? name := by
  rw [get?, same.held, get?]

/-- Rows with the same fields have the same numbers. -/
theorem number?_eq (name : String) : row.number? name = other.number? name := by
  rw [number?, same.get?_eq, number?]

/-- Rows with the same fields have the same keys. -/
theorem key?_eq (name : String) : row.key? name = other.key? name := by
  rw [key?, same.get?_eq, key?]

/-- Rows with the same fields still have them when a field is inserted in both. -/
theorem insert (name : String) (value : Value) :
    (row.insert name value).SameFields (other.insert name value) where
  distinct := nodup_insert same.distinct name value
  distinct' := nodup_insert same.distinct' name value
  held := by
    funext asked
    simp [same.held]

/-- If there is a place for every field, rows with the same fields become the same row. -/
theorem reorder_eq {names : List String} (distinct : names.Nodup)
    (within : ∀ name, (row.stored? name).isSome = true → name ∈ names) :
    row.reorder names = other.reorder names := by
  have placed : ∀ field ∈ row.fields, field.1 ∈ names := fun field member =>
    within _ (isSome_stored?_iff.mpr (List.mem_map_of_mem member))
  have placed' : ∀ field ∈ other.fields, field.1 ∈ names := fun field member =>
    within _ (same.held ▸ isSome_stored?_iff.mpr (List.mem_map_of_mem member))
  rw [reorder, reorder, reorderFields_eq_fieldsOf distinct same.distinct placed,
    reorderFields_eq_fieldsOf distinct same.distinct' placed']
  exact congrArg (fun held => Row.mk (fieldsOf held names)) same.held

end Reading

end Row.SameFields

namespace Join

variable {row other : Row}

/-- Rows with the same fields have one cycle key. -/
theorem CycleKey.ofRow?_eq (same : row.SameFields other) :
    CycleKey.ofRow? row = CycleKey.ofRow? other := by
  rw [CycleKey.ofRow?, same.key?_eq, same.key?_eq, CycleKey.ofRow?]

/-- Rows with the same fields have one position. -/
theorem Position.ofRow_eq (same : row.SameFields other) :
    Position.ofRow row = Position.ofRow other := by
  simp only [Position.ofRow, same.get?_eq]

/-- Of rows with the same fields both survive the residual conditions or neither does. -/
theorem survives_eq (descriptor : Descriptor) (side : Side) (same : row.SameFields other) :
    survives descriptor side row = survives descriptor side other := by
  simp only [survives, same.number?_eq]

/-- A merged row does not depend on the order in which its fields came. -/
theorem reorder_onto {names : List String} (distinct : names.Nodup)
    (places : ∀ name ∈ positionNames, name ∈ names) (same : row.SameFields other)
    (within : ∀ name, (row.stored? name).isSome = true → name ∈ names) (position : Position) :
    (position.onto row).reorder names = (position.onto other).reorder names := by
  obtain ⟨lat, lon, day, -⟩ := by
    simpa only [positionNames, List.forall_mem_cons] using places
  refine Row.SameFields.reorder_eq (((same.insert _ _).insert _ _).insert _ _) distinct ?_
  intro name holds
  simp only [Row.stored?_insert] at holds
  split_ifs at holds with isDay isLon isLat
  · exact isDay ▸ day
  · exact isLon ▸ lon
  · exact isLat ▸ lat
  · exact within name holds

section Arranged

variable {arrange : Row → Row} {rows : List Row}
  (same : ∀ row ∈ rows, row.SameFields (arrange row))

include same

/-- A test that looks at fields only selects the same rows when their fields are rearranged. -/
theorem filter_arranged {test : Row → Bool}
    (blind : ∀ row other : Row, row.SameFields other → test row = test other) :
    (rows.map arrange).filter test = (rows.filter test).map arrange := by
  rw [List.filter_map]
  refine congrArg (List.map arrange) (List.filter_congr fun row member => ?_)
  exact (blind row (arrange row) (same row member)).symm

/-- The index of some rows does not depend on the order of their fields. -/
theorem ofRows_arranged : KeyIndex.ofRows (rows.map arrange) = KeyIndex.ofRows rows := by
  rw [KeyIndex.ofRows, KeyIndex.ofRows, List.foldl_map]
  refine List.foldl_ext _ _ _ fun index row member => ?_
  rw [KeyIndex.addRow, KeyIndex.addRow, CycleKey.ofRow?_eq (same row member),
    Position.ofRow_eq (same row member)]

/-- A reply whose rows are rearranged retains the same rows, rearranged. -/
theorem Reply.retained_arranged (descriptor : Descriptor) (index : KeyIndex) (float : String) :
    Reply.retained descriptor index ⟨float, .ok (rows.map arrange)⟩ =
      (Reply.retained descriptor index ⟨float, .ok rows⟩).map arrange := by
  have survivors : (rows.map arrange).filter (survives descriptor descriptor.dependent) =
      (rows.filter (survives descriptor descriptor.dependent)).map arrange :=
    filter_arranged same fun _ _ => survives_eq descriptor descriptor.dependent
  have kept : ∀ row ∈ rows.filter (survives descriptor descriptor.dependent),
      row.SameFields (arrange row) := fun row member => same row (List.mem_of_mem_filter member)
  simp only [retained, fetched, survivors]
  refine filter_arranged kept fun row other alike => ?_
  rw [alike.key?_eq]

/-- A reply whose rows are rearranged merges to the very same rows: the projection puts the fields
in its own order, and a position brings no field that the projection does not have. -/
theorem Reply.merged_arranged {descriptor : Descriptor}
    (distinct : (descriptor.projection.map Column.name).Nodup)
    (places : ∀ name ∈ positionNames, name ∈ descriptor.projection.map Column.name)
    (within : ∀ row ∈ rows, ∀ name, (row.stored? name).isSome = true →
      name ∈ descriptor.projection.map Column.name) (index : KeyIndex) (float : String) :
    Reply.merged descriptor index ⟨float, .ok (rows.map arrange)⟩ =
      Reply.merged descriptor index ⟨float, .ok rows⟩ := by
  rw [merged, merged, Reply.retained_arranged same, List.filterMap_map]
  refine List.filterMap_congr fun row member => ?_
  have held : row ∈ rows := List.mem_of_mem_filter (List.mem_of_mem_filter member)
  have position (position : Position) := reorder_onto distinct places (same row held)
    (within row held) position
  simp only [Function.comp_apply, merge?, (same row held).key?_eq, position]

end Arranged

/-- Whether two replies come to the same in the result of a join. -/
structure Reply.Matches (descriptor : Descriptor) (index : KeyIndex) (reply other : Reply) :
    Prop where
  float : reply.float = other.float
  isFailure : reply.isFailure = other.isFailure
  fetched : reply.fetched.length = other.fetched.length
  retained : (reply.retained descriptor index).length = (other.retained descriptor index).length
  merged : reply.merged descriptor index = other.merged descriptor index

/-- Nothing else counts of a reply. -/
theorem finish_congr {descriptor : Descriptor} {index : KeyIndex} {order : List String}
    {reply other : String → Reply}
    (alike : ∀ float ∈ order, (reply float).Matches descriptor index (other float))
    (fetched kept : Nat) :
    finish descriptor fetched kept index (order.map reply) =
      finish descriptor fetched kept index (order.map other) := by
  have failed : ((order.map reply).filter Reply.isFailure).map Reply.float =
      ((order.map other).filter Reply.isFailure).map Reply.float := by
    have failing : order.filter (Reply.isFailure ∘ reply) =
        order.filter (Reply.isFailure ∘ other) :=
      List.filter_congr fun float member => (alike float member).isFailure
    rw [List.filter_map, List.filter_map, List.map_map, List.map_map, failing]
    refine List.map_congr_left fun float member => ?_
    exact (alike float (List.mem_of_mem_filter member)).float
  have received : ((order.map reply).flatMap Reply.fetched).length =
      ((order.map other).flatMap Reply.fetched).length := by
    rw [List.length_flatMap, List.length_flatMap, List.map_map, List.map_map]
    exact congrArg List.sum (List.map_congr_left fun float member => (alike float member).fetched)
  have retained : ((order.map reply).flatMap (Reply.retained descriptor index)).length =
      ((order.map other).flatMap (Reply.retained descriptor index)).length := by
    rw [List.length_flatMap, List.length_flatMap, List.map_map, List.map_map]
    exact congrArg List.sum (List.map_congr_left fun float member => (alike float member).retained)
  have merged : (order.map reply).flatMap (Reply.merged descriptor index) =
      (order.map other).flatMap (Reply.merged descriptor index) := by
    rw [List.flatMap_map, List.flatMap_map]
    exact List.flatMap_congr fun float member => (alike float member).merged
  simp only [finish, countReplies, failed, received, retained, merged]

section Executions

variable {store other : Store} {names : CollectionNames} {descriptor : Descriptor}
  {arrange : Row → Row} {fetched : List Row}
  (driving : store (drivingSelect names descriptor) = .ok fetched)
  (driving' : other (drivingSelect names descriptor) = .ok (fetched.map arrange))
  (same : ∀ row ∈ fetched, row.SameFields (arrange row))

include driving driving' same

/-- The kept rows of the other store are those of the store, rearranged. -/
theorem keptRows_arranged :
    keptRows other names descriptor = (keptRows store names descriptor).map arrange := by
  rw [keptRows, keptRows, drivingRows, drivingRows, driving, driving']
  exact filter_arranged same fun _ _ => survives_eq descriptor descriptor.driving

/-- Both stores give one index. -/
theorem indexOf_arranged : indexOf other names descriptor = indexOf store names descriptor := by
  have alike : ∀ row ∈ keptRows store names descriptor, row.SameFields (arrange row) := by
    intro row member
    rw [keptRows, drivingRows, driving] at member
    exact same row (List.mem_of_mem_filter member)
  rw [indexOf, keptRows_arranged driving driving' same, ofRows_arranged alike, indexOf]

/-- The same floats are fetched. -/
theorem queried_arranged : queried other names descriptor = queried store names descriptor := by
  rw [queried, indexOf_arranged driving driving' same, queried]

/-- A store that answers a join with the rows of another, each with its fields in some other order,
makes no difference to its execution. -/
theorem executeAlong_arranged (distinct : (descriptor.projection.map Column.name).Nodup)
    (places : ∀ name ∈ positionNames, name ∈ descriptor.projection.map Column.name)
    (dependent : ∀ float ∈ queried store names descriptor, ∃ rows,
      store (dependentSelect names descriptor float) = .ok rows ∧
        other (dependentSelect names descriptor float) = .ok (rows.map arrange) ∧
        ∀ row ∈ rows, row.SameFields (arrange row) ∧
          ∀ name, (row.stored? name).isSome = true →
            name ∈ descriptor.projection.map Column.name)
    {fetching : List String → List (FetchEvent String)}
    (answered : ∀ floats, ∀ float ∈ (fetching floats).filterMap FetchEvent.answered?,
      float ∈ floats) :
    executeAlong fetching other names descriptor =
      executeAlong fetching store names descriptor := by
  have kept : (keptRows other names descriptor).length =
      (keptRows store names descriptor).length := by
    rw [keptRows_arranged driving driving' same, List.length_map]
  have replies : ∀ float ∈ (fetching (queried store names descriptor)).filterMap
      FetchEvent.answered?, (replyOf other names descriptor float).Matches descriptor
        (indexOf store names descriptor) (replyOf store names descriptor float) := by
    intro float member
    obtain ⟨rows, own, others, each⟩ := dependent float (answered _ float member)
    have alike : ∀ row ∈ rows, row.SameFields (arrange row) := fun row held => (each row held).1
    rw [replyOf, replyOf, own, others]
    constructor
    case float => rfl
    case isFailure => rfl
    case fetched => exact List.length_map ..
    case retained => rw [Reply.retained_arranged alike, List.length_map]
    case merged =>
      exact Reply.merged_arranged alike distinct places (fun row held => (each row held).2) _ _
  rw [executeAlong_ok driving, executeAlong_ok driving', indexOf_arranged driving driving' same,
    queried_arranged driving driving' same, kept, List.length_map]
  simp only [finish_congr replies]

end Executions

end Join

end ArgoQuery
