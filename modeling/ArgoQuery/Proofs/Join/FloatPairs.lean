import ArgoQuery.Proofs.Join.MemoryFetches
import ArgoQuery.Proofs.Join.Pushdown

/-!
# What the floats contribute to a join over a store in memory

The rows kept of the driving side are the qualifying positions, projected (`keptRows_toStore`). The
index finds the last of them by key (`position?_indexOf`). The fetch of a float contributes the
pairs of this float (`contribution_perm`), and the fetches of all floats contribute every pair once
(`flatMap_contribution_perm`). Rows that are repeated are repeated in what is contributed, and a row
without a key takes no part.

All of this holds of every descriptor that is driven by the positions and fetches what its residual
conditions test. What a merged row looks like is left open: it is `combined`, the row that the join
makes of a pair.
-/

namespace ArgoQuery.Join

/-- What has one key and what has another make up the whole. -/
theorem filterMap_split_perm {Key Item Result : Type} [DecidableEq Key] (one : Key)
    (items : List Item) (key : Item → Option Key) (result : Item → Option Result) :
    ((items.filterMap fun item => if key item = some one then result item else none) ++
      items.filterMap fun item => if key item = some one then none else result item).Perm
      (items.filterMap result) := by
  induction items with
  | nil => exact List.Perm.refl _
  | cons item rest ih =>
    cases found : result item with
    | none => simpa [found] using ih
    | some value =>
      by_cases own : key item = some one
      · simpa [found, own] using ih.cons value
      · simpa [found, own] using List.perm_middle.trans (ih.cons value)

/-- Going through distinct keys finds every item once, if the items that count have one of the
keys. -/
theorem flatMap_filterMap_perm {Key Item Result : Type} [DecidableEq Key] {keys : List Key}
    (distinct : keys.Nodup) (items : List Item) (key : Item → Option Key)
    (result : Item → Option Result)
    (covered : ∀ item ∈ items, (result item).isSome = true → ∃ one ∈ keys, key item = some one) :
    (keys.flatMap fun one =>
      items.filterMap fun item => if key item = some one then result item else none).Perm
      (items.filterMap result) := by
  induction keys generalizing result with
  | nil =>
    have nothing : items.filterMap result = [] := by
      rw [List.filterMap_eq_nil_iff]
      intro item member
      rw [← Option.not_isSome_iff_eq_none]
      intro counts
      obtain ⟨one, absent, -⟩ := covered item member counts
      cases absent
    rw [nothing]
    exact List.Perm.refl _
  | cons one rest ih =>
    obtain ⟨fresh, others⟩ := List.nodup_cons.mp distinct
    rw [List.flatMap_cons]
    refine List.Perm.trans (List.Perm.append_left _ ?_)
      (filterMap_split_perm one items key result)
    refine List.Perm.trans ?_ (ih others (fun item =>
      if key item = some one then none else result item) ?_)
    · refine List.Perm.of_eq (List.flatMap_congr fun other member => ?_)
      refine List.filterMap_congr fun item _ => ?_
      have different : other ≠ one := fun same => fresh (same ▸ member)
      by_cases own : key item = some other
      · rw [if_pos own, if_pos own, if_neg]
        rw [own]
        simpa using different
      · rw [if_neg own, if_neg own]
    · intro item member counts
      by_cases own : key item = some one
      · rw [if_pos own] at counts
        cases counts
      · rw [if_neg own] at counts
        obtain ⟨other, found, same⟩ := covered item member counts
        rcases List.mem_cons.mp found with rfl | later
        · exact absurd same own
        · exact ⟨other, later, same⟩

/-- A descriptor that is driven by the positions, joins by float and cycle, and fetches the columns
that its residual conditions test. -/
structure DrivenByPositions (descriptor : Descriptor) : Prop where
  driving : descriptor.driving = .locations
  dependent : descriptor.dependent = .measurements
  joinKey : descriptor.joinKey = (.floatId, .cycleNumber)
  residuals : ∀ side, ∀ condition ∈ descriptor.conditionsOn side, condition.isResidual = true →
    condition.column ∈ descriptor.columnsOf side

/-- The names of the columns fetched from one side. -/
def columnNames (descriptor : Descriptor) (side : Side) : List String :=
  (descriptor.columnsOf side).map Column.name

/-- The filters of a select are those of its side, after the one for the float if there is one. -/
theorem admits_scopedSelect (names : CollectionNames) (descriptor : Descriptor) (side : Side)
    (float : Option String) (row : Row) :
    (scopedSelect names descriptor side float).admits row =
      ((float.all fun own => row.key? Column.floatId.name == some own) &&
        (pushedFilters descriptor side).all fun filter => filter.admits row) := by
  rw [Select.admits, scopedSelect, List.all_append]
  cases float <;> simp [Filter.admits, pushedFilters]

/-- The stored rows that a select of a join finds, if it can be sorted: those of its side that
pass. -/
theorem found_scopedSelect_perm {store : MemoryStore} {names : CollectionNames}
    {descriptor : Descriptor} {side : Side} {float : Option String}
    (sorts : (store.found? (scopedSelect names descriptor side float)).isSome = true) :
    (store.found (scopedSelect names descriptor side float)).Perm
      ((store.rowsOf (names.ofSide side)).filter fun row =>
        (float.all fun own => row.key? Column.floatId.name == some own) &&
          (pushedFilters descriptor side).all fun filter => filter.admits row) := by
  rw [← List.filter_congr fun row _ => admits_scopedSelect names descriptor side float row]
  exact MemoryStore.found_perm rfl sorts

/-- Every row that a select of a join finds is a stored row of its side that passes. -/
theorem mem_of_mem_found_scopedSelect {store : MemoryStore} {names : CollectionNames}
    {descriptor : Descriptor} {side : Side} {float : Option String} {row : Row}
    (member : row ∈ store.found (scopedSelect names descriptor side float)) :
    row ∈ store.rowsOf (names.ofSide side) ∧
      (float.all fun own => row.key? Column.floatId.name == some own) = true ∧
      (pushedFilters descriptor side).all (fun filter => filter.admits row) = true := by
  obtain ⟨stored, admitted⟩ :=
    List.mem_filter.mp ((store.found_subperm_filter _).subset member)
  rw [admits_scopedSelect, Bool.and_eq_true] at admitted
  exact ⟨stored, admitted⟩

section Projected

variable {descriptor : Descriptor} {side : Side}

/-- What is fetched of a row has its keys under the columns that are fetched. -/
@[simp]
theorem key?_project_columns {column : Column} (member : column ∈ descriptor.columnsOf side)
    (row : Row) :
    (row.project (columnNames descriptor side)).key? column.name = row.key? column.name :=
  Row.key?_project (List.mem_map_of_mem member)

/-- A row arrives with its key. -/
theorem ofRow?_project (joinKey : descriptor.joinKey = (.floatId, .cycleNumber)) (row : Row) :
    CycleKey.ofRow? (row.project (columnNames descriptor side)) = CycleKey.ofRow? row := by
  have float : Column.floatId ∈ descriptor.columnsOf side := by
    simp [Descriptor.columnsOf, joinKey]
  have cycle : Column.cycleNumber ∈ descriptor.columnsOf side := by
    simp [Descriptor.columnsOf, joinKey]
  simp [CycleKey.ofRow?, float, cycle]

end Projected

/-- A measurement is paired if it has a key and a position has it. -/
theorem exists_key_of_match? {positions : List Row} {measurement : Row}
    (paired : (NestedLoop.match? positions measurement).isSome = true) :
    ∃ key, CycleKey.ofRow? measurement = some key ∧ (key.last? positions).isSome = true := by
  rw [NestedLoop.match?] at paired
  cases own : CycleKey.ofRow? measurement with
  | none => simp [own] at paired
  | some key =>
    refine ⟨key, rfl, ?_⟩
    cases last : key.last? positions with
    | none => simp [own, last] at paired
    | some position => rfl

section Memory

variable {store : MemoryStore} {names : CollectionNames} {descriptor : Descriptor}
  (answers : ∀ select, store.toStore select = .ok (store.evaluate select))
  (driven : DrivenByPositions descriptor)

/-- The stored positions that qualify, in the order in which the driving select returns them. -/
def keptPositions (store : MemoryStore) (names : CollectionNames) (descriptor : Descriptor) :
    List Row :=
  (store.found (drivingSelect names descriptor)).filter (qualifies descriptor .locations)

include driven in
/-- No qualifying position is lost if the driving select can be sorted: its filters admit all of
them. -/
theorem keptPositions_perm
    (sorts : (store.found? (drivingSelect names descriptor)).isSome = true) :
    (keptPositions store names descriptor).Perm
      ((store.rowsOf names.locations).filter (qualifies descriptor .locations)) := by
  rw [drivingSelect, driven.driving] at sorts
  rw [keptPositions, drivingSelect, driven.driving]
  refine ((found_scopedSelect_perm sorts).filter _).trans (List.Perm.of_eq ?_)
  rw [List.filter_filter]
  refine List.filter_congr fun row _ => ?_
  rw [qualifies_eq]
  cases survives descriptor .locations row <;> simp

include answers driven

/-- The rows that are indexed are the qualifying positions, projected. -/
theorem keptRows_toStore :
    keptRows store.toStore names descriptor =
      (keptPositions store names descriptor).map fun row =>
        row.project (columnNames descriptor .locations) := by
  have fetched : drivingRows store.toStore names descriptor =
      (store.found (drivingSelect names descriptor)).map fun row =>
        row.project (columnNames descriptor .locations) := by
    rw [drivingRows, answers, drivingSelect, driven.driving]
    rfl
  rw [keptRows, fetched, List.filter_map, driven.driving, keptPositions]
  refine congrArg (List.map _) (List.filter_congr fun row member => ?_)
  have admitted : (pushedFilters descriptor .locations).all (fun filter => filter.admits row) =
      true := by
    rw [drivingSelect, driven.driving] at member
    exact (mem_of_mem_found_scopedSelect member).2.2
  rw [qualifies_eq, admitted, Bool.true_and]
  exact survives_project (driven.residuals .locations) row

/-- The index answers a key with the last qualifying position that has it. -/
theorem position?_indexOf (key : CycleKey) :
    (indexOf store.toStore names descriptor).position? key =
      (key.last? (keptPositions store names descriptor)).map fun row =>
        Position.ofRow (row.project (columnNames descriptor .locations)) := by
  rw [indexes_indexOf.positions key, keptRows_toStore answers driven,
    CycleKey.last?_map (ofRow?_project driven.joinKey), Option.map_map]
  rfl

/-- A pair as the join merges it. -/
def combined (descriptor : Descriptor) : Row × Row → Row
  | (measurement, position) =>
    ((Position.ofRow (position.project (columnNames descriptor .locations))).onto
      (measurement.project (columnNames descriptor .measurements))).reorder
      (descriptor.projection.map Column.name)

/-- Whether a row is of a cycle of the float that the index knows. -/
def isIndexed (index : KeyIndex) (float : String) (row : Row) : Bool :=
  (row.key? Column.cycleNumber.name).any fun cycle => decide (cycle ∈ index.cyclesOf float)

/-- What a float contributes, from the stored rows that its fetch finds: those that survive and are
of an indexed cycle, merged. -/
theorem contribution_toStore (float : String) :
    contribution store.toStore names descriptor float =
      (store.found (dependentSelect names descriptor float)).filterMap fun row =>
        if survives descriptor .measurements row &&
            isIndexed (indexOf store.toStore names descriptor) float row then
          (replyOf store.toStore names descriptor float).merge? descriptor
            (indexOf store.toStore names descriptor)
            (row.project (columnNames descriptor .measurements))
        else none := by
  have cycleFetched : Column.cycleNumber ∈ descriptor.columnsOf .measurements := by
    simp [Descriptor.columnsOf, driven.joinKey]
  have fetched : (replyOf store.toStore names descriptor float).fetched =
      (store.found (dependentSelect names descriptor float)).map fun row =>
        row.project (columnNames descriptor .measurements) := by
    rw [replyOf, Reply.fetched, answers, dependentSelect, driven.dependent]
    rfl
  rw [contribution, Reply.merged, Reply.retained, fetched, driven.dependent, List.filter_map,
    List.filter_map, List.filterMap_map, List.filter_filter, List.filterMap_filter]
  refine List.filterMap_congr fun row _ => ?_
  have survivors : survives descriptor .measurements
      (row.project (columnNames descriptor .measurements)) =
      survives descriptor .measurements row :=
    survives_project (driven.residuals .measurements) row
  have cycle : (row.project (columnNames descriptor .measurements)).key? Column.cycleNumber.name =
      row.key? Column.cycleNumber.name := key?_project_columns cycleFetched row
  simp only [Function.comp_apply, survivors, cycle, isIndexed, Bool.and_comm]
  rfl

/-- A measurement of the float is merged if a position has its key, with the last one that has
it. -/
theorem merge?_project {float : String} {measurement : Row}
    (own : measurement.key? Column.floatId.name = some float) :
    (if isIndexed (indexOf store.toStore names descriptor) float measurement then
        (replyOf store.toStore names descriptor float).merge? descriptor
          (indexOf store.toStore names descriptor)
          (measurement.project (columnNames descriptor .measurements))
      else none) =
      (NestedLoop.match? (keptPositions store names descriptor) measurement).map
        (combined descriptor) := by
  have cycleFetched : Column.cycleNumber ∈ descriptor.columnsOf .measurements := by
    simp [Descriptor.columnsOf, driven.joinKey]
  rw [Reply.merge?, key?_project_columns cycleFetched, NestedLoop.match?, CycleKey.ofRow?, own,
    isIndexed]
  cases measurement.key? Column.cycleNumber.name with
  | none => rfl
  | some cycle =>
    have known : cycle ∈ (indexOf store.toStore names descriptor).cyclesOf float ↔ _ :=
      indexes_indexOf.mem_cyclesOf
    have position : (indexOf store.toStore names descriptor).position? ⟨float, cycle⟩ = _ :=
      position?_indexOf answers driven _
    simp only [Option.any_some, decide_eq_true_eq, known, position]
    cases last : CycleKey.last? ⟨float, cycle⟩ (keptPositions store names descriptor) with
    | none => simp [last]
    | some row => simp [last, position, replyOf, combined]

/-- A float contributes the pairs of its measurements, if its fetch can be sorted.

Its fetch finds the measurements of the float that the filters admit, in some order. Those that
survive are the qualifying ones, and of these the ones with a position are merged. -/
theorem contribution_perm {float : String}
    (sorts : (store.found? (dependentSelect names descriptor float)).isSome = true) :
    (contribution store.toStore names descriptor float).Perm
      (((store.rowsOf names.measurements).filter (qualifies descriptor .measurements)).filterMap
        fun measurement =>
          if measurement.key? Column.floatId.name = some float then
            (NestedLoop.match? (keptPositions store names descriptor) measurement).map
              (combined descriptor)
          else none) := by
  have found : (store.found (dependentSelect names descriptor float)).Perm
      ((store.rowsOf names.measurements).filter fun row =>
        row.key? Column.floatId.name == some float &&
          (pushedFilters descriptor .measurements).all fun filter => filter.admits row) := by
    rw [dependentSelect, driven.dependent] at sorts ⊢
    exact found_scopedSelect_perm sorts
  rw [contribution_toStore answers driven]
  refine (found.filterMap _).trans (List.Perm.of_eq ?_)
  rw [List.filterMap_filter, List.filterMap_filter]
  refine List.filterMap_congr fun row _ => ?_
  rw [qualifies_eq]
  by_cases own : row.key? Column.floatId.name = some float
  · rw [if_pos own, ← merge?_project answers driven own]
    cases (pushedFilters descriptor .measurements).all fun filter => filter.admits row <;>
      cases survives descriptor .measurements row <;> simp [own]
  · simp [own]

/-- A measurement that is paired has a float that is fetched. -/
theorem float_mem_queried {measurement : Row}
    (paired :
      (NestedLoop.match? (keptPositions store names descriptor) measurement).isSome = true) :
    ∃ float ∈ queried store.toStore names descriptor,
      measurement.key? Column.floatId.name = some float := by
  obtain ⟨key, own, positioned⟩ := exists_key_of_match? paired
  refine ⟨key.float, ?_, CycleKey.key?_of_ofRow? own⟩
  have indexed : ((indexOf store.toStore names descriptor).position? key).isSome = true := by
    rw [position?_indexOf answers driven, Option.isSome_map, positioned]
  rw [indexes_indexOf.positions, Option.isSome_map, CycleKey.last?_isSome] at indexed
  exact (indexes_indexOf.floats key.float).mpr (List.mem_map_of_mem indexed)

/-- The floats together contribute every pair once, if their fetches can be sorted. -/
theorem flatMap_contribution_perm
    (sorts : ∀ float ∈ queried store.toStore names descriptor,
      (store.found? (dependentSelect names descriptor float)).isSome = true) :
    ((queried store.toStore names descriptor).flatMap
        (contribution store.toStore names descriptor)).Perm
      ((((store.rowsOf names.measurements).filter (qualifies descriptor .measurements)).filterMap
        (NestedLoop.match? (keptPositions store names descriptor))).map
          (combined descriptor)) := by
  refine List.Perm.trans
    (List.Perm.flatMap_left _ fun float member =>
      contribution_perm answers driven (sorts float member)) ?_
  rw [List.map_filterMap]
  refine flatMap_filterMap_perm queried_nodup _ (fun row : Row => row.key? Column.floatId.name) _ ?_
  intro measurement _ paired
  rw [Option.isSome_map] at paired
  exact float_mem_queried answers driven paired

end Memory

end ArgoQuery.Join
