import ArgoQuery.Join.Selects
import ArgoQuery.Proofs.Descriptor.CanonicalText
import ArgoQuery.Proofs.Table.SelectPairs

/-!
# A join loses nothing of what it asks for

A join only asks for columns of the two collections, and none of their names is reserved or has a
comma in it. So its selects are known from the parameters that they are sent as, if the bounds of
the descriptor are numbers, and the text that identifies a float is read as such whatever it says:
`scopedSelect_parameters`.
-/

namespace ArgoQuery

/-- The name of a column has no comma, so names can be listed with commas between them. -/
theorem Column.comma_not_mem_name (column : Column) : ',' ∉ column.name.toList := by
  cases column <;> decide

/-- No column has the name of another parameter. -/
theorem Column.name_not_reserved (column : Column) : column.name ∉ Select.reservedNames := by
  cases column <;> decide

namespace Join

/-- The filters of a condition compare with numbers. -/
theorem isComparable_of_mem_pushed {condition : Condition}
    (numbers : ∀ bound ∈ condition.bounds, bound.isNaN = false) {filter : Filter}
    (listed : filter ∈ pushed condition) : filter.IsComparable := by
  intro bound compared
  cases condition with
  | wrapped column start stop => cases listed
  | notNull column =>
    rw [List.mem_singleton.mp listed] at compared
    cases compared
  | between column min max upper =>
    simp only [Condition.bounds, List.forall_mem_cons] at numbers
    simp only [pushed, List.mem_cons, List.not_mem_nil, or_false] at listed
    rcases listed with rfl | rfl
    · exact List.mem_singleton.mp compared ▸ numbers.1
    · exact List.mem_singleton.mp compared ▸ numbers.2.1

/-- The filters of a condition are on columns. -/
theorem exists_column_of_mem_pushed {condition : Condition} {filter : Filter}
    (listed : filter ∈ pushed condition) : ∃ column : Column, filter.column = column.name := by
  cases condition with
  | wrapped column start stop => cases listed
  | notNull column => exact ⟨column, List.mem_singleton.mp listed ▸ rfl⟩
  | between column min max upper =>
    simp only [pushed, List.mem_cons, List.not_mem_nil, or_false] at listed
    rcases listed with rfl | rfl <;> exact ⟨column, rfl⟩

/-- A filter of a select names the float, or comes from a condition of the descriptor. -/
theorem mem_filters_scopedSelect {names : CollectionNames} {descriptor : Descriptor} {side : Side}
    {float : Option String} {filter : Filter}
    (listed : filter ∈ (scopedSelect names descriptor side float).filters) :
    (∃ id, filter = .equal Column.floatId.name id) ∨
      ∃ condition ∈ descriptor.conditions, filter ∈ pushed condition := by
  rcases List.mem_append.mp listed with own | shared
  · obtain ⟨id, -, rfl⟩ := List.mem_map.mp own
    exact .inl ⟨id, rfl⟩
  · obtain ⟨condition, held, pushed⟩ := List.mem_flatMap.mp shared
    exact .inr ⟨condition, List.mem_of_mem_filter (List.mem_of_mem_filter held), pushed⟩

/-- The selects of a join can be told from their parameters. -/
theorem isTellable_scopedSelect (names : CollectionNames) {descriptor : Descriptor}
    (numbers : ∀ bound ∈ descriptor.bounds, bound.isNaN = false) (side : Side)
    (float : Option String) : (scopedSelect names descriptor side float).IsTellable where
  columns_ne_nil := List.cons_ne_nil _ _
  order_ne_nil := by cases side <;> exact List.cons_ne_nil _ _
  comma_not_mem_column := List.forall_mem_map.mpr fun column _ => column.comma_not_mem_name
  comma_not_mem_order := List.forall_mem_map.mpr fun column _ => column.comma_not_mem_name
  comparable filter listed := by
    rcases mem_filters_scopedSelect listed with ⟨id, rfl⟩ | ⟨condition, held, pushed⟩
    · exact List.forall_mem_nil _
    · exact isComparable_of_mem_pushed
        (fun bound compared => numbers bound (List.mem_flatMap.mpr ⟨condition, held, compared⟩))
        pushed
  unreserved filter listed := by
    rcases mem_filters_scopedSelect listed with ⟨id, rfl⟩ | ⟨condition, -, pushed⟩
    · exact Column.floatId.name_not_reserved
    · obtain ⟨column, named⟩ := exists_column_of_mem_pushed pushed
      exact named ▸ column.name_not_reserved

section Parameters

variable {names names' : CollectionNames} {descriptor descriptor' : Descriptor} {side side' : Side}
  {float float' : Option String} {select other : Select}
  (numbers : ∀ bound ∈ descriptor.bounds, bound.isNaN = false)
  (numbers' : ∀ bound ∈ descriptor'.bounds, bound.isNaN = false)
  (built : select = scopedSelect names descriptor side float)
  (built' : other = scopedSelect names' descriptor' side' float')

include numbers numbers' built built'

/-- The selects of two joins with the same parameters ask for the same. No filter is sent as
another one is, and whatever the text for the float says, it is no column, order or page.

The selects of a join can be told by their parameters: no name of a column has a comma or is that of
another parameter, and its filters compare with numbers. The rest is about such selects. -/
theorem scopedSelect_parameters :
    (select.queryPairs = other.queryPairs →
      select.columns = other.columns ∧ select.filters = other.filters ∧
        select.order = other.order) ∧
    (∀ filter ∈ select.filters, ∀ filter' ∈ other.filters,
      (filter.column, filter.operator) = (filter'.column, filter'.operator) → filter = filter') ∧
    ∀ page : Rest.PageRequest,
      Select.ownPairs (select.requestPairs page) =
          [("select", select.columnsText), ("order", select.orderText),
            ("limit", decimalText page.limit), ("offset", decimalText page.offset)] ∧
        Select.filterPairs (select.requestPairs page) =
          select.filters.map fun filter => (filter.column, filter.operator) := by
  have tellable : select.IsTellable := built ▸ isTellable_scopedSelect names numbers side float
  have tellable' : other.IsTellable :=
    built' ▸ isTellable_scopedSelect names' numbers' side' float'
  refine ⟨fun same => ?_, ?_, fun page => ⟨tellable.ownPairs_eq page, tellable.filterPairs_eq page⟩⟩
  · have whole : select.requestPairs ⟨0, 0⟩ = other.requestPairs ⟨0, 0⟩ := by
      rw [Select.requestPairs, same, Select.requestPairs]
    obtain ⟨columns, filters, order, -⟩ := tellable.eq_of_requestPairs_eq tellable' whole
    exact ⟨columns, filters, order⟩
  · intro filter listed filter' listed' same
    exact Filter.eq_of_pair_eq (tellable.comparable filter listed)
      (tellable'.comparable filter' listed') same

/-- The same of the address at which a collection is asked: it says which page of what. -/
theorem scopedSelect_of_url_eq {store : RestStore} {page page' : Rest.PageRequest}
    {request request' : Http.Request} (collection : select.collection = other.collection)
    (sent : store.request select page = .ok request)
    (sent' : store.request other page' = .ok request') (same : request.url = request'.url) :
    select.columns = other.columns ∧ select.filters = other.filters ∧ select.order = other.order ∧
      page = page' :=
  RestStore.eq_of_url_eq (built ▸ isTellable_scopedSelect names numbers side float)
    (built' ▸ isTellable_scopedSelect names' numbers' side' float') collection sent sent' same

end Parameters

/-- A text for the float that imitates an order, a comparison and a column. The other descriptor has
a condition that is not sent, so the parameters are the same and the selects differ in the name of
the collection only. -/
theorem scopedSelect_parameters_of_imitation :
    let id := "7&order=pres_adjusted.desc,gte.1,\nlatitude not.is.null#%26"
    let descriptor : Descriptor := { Descriptor.ofTopic .salinity none none with
      conditions := [.notNull .latitude,
        .between .latitude (-0.0) (.ofMagnitude false Binary64.infiniteMagnitude) .excluded] }
    let descriptor' : Descriptor := { descriptor with
      conditions := .wrapped .longitude 170 (-170) :: descriptor.conditions }
    let select := scopedSelect {} descriptor .locations (some id)
    let other := scopedSelect { locations := "positions" } descriptor' .locations (some id)
    (∀ bound ∈ descriptor.bounds, bound.isNaN = false) ∧
      (∀ bound ∈ descriptor'.bounds, bound.isNaN = false) ∧
      select.queryPairs = other.queryPairs ∧ select.filters = other.filters ∧
      Select.ownPairs (select.requestPairs ⟨10, 0⟩) =
        [("select", "float_id,cycle_number,latitude,longitude,juld"),
          ("order", "float_id.asc,cycle_number.asc"), ("limit", "10"), ("offset", "0")] := by
  intro id descriptor descriptor' select other
  have numbers : ∀ bound ∈ descriptor.bounds, bound.isNaN = false := by decide +kernel
  have numbers' : ∀ bound ∈ descriptor'.bounds, bound.isNaN = false := by decide +kernel
  have same : select.queryPairs = other.queryPairs := by decide +kernel
  have built : select = scopedSelect {} descriptor .locations (some id) := rfl
  have built' : other =
      scopedSelect { locations := "positions" } descriptor' .locations (some id) := rfl
  obtain ⟨equal, -, own⟩ := scopedSelect_parameters numbers numbers' built built'
  refine ⟨numbers, numbers', same, (equal same).2.1, (own ⟨10, 0⟩).1.trans ?_⟩
  decide +kernel

end Join

end ArgoQuery
