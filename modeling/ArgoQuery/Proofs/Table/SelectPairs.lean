import ArgoQuery.Proofs.Binary64.PlainText
import ArgoQuery.Proofs.Http.QueryStrings
import ArgoQuery.Rest

/-!
# A request says which select it is of

The columns, the filters and the order of a select share one list of names and values with the page.
Four names are reserved. If no filter has one of them for its column, then the list falls into the
select's own parameters and its filters (`ownPairs_eq`, `filterPairs_eq`), and if no column has a
comma in its name, both can be read back: `IsTellable.eq_of_requestPairs_eq`.

The list is sent as a query string, so the same goes for the address of a request:
`RestStore.eq_of_url_eq`.
-/

namespace ArgoQuery

namespace Filter

/-- The numbers that a filter compares with. -/
def bounds : Filter → List Binary64
  | equal .. | notNull _ => []
  | atLeast _ bound | atMost _ bound => [bound]

/-- Whether a filter compares with numbers only. -/
def IsComparable (filter : Filter) : Prop := ∀ bound ∈ filter.bounds, bound.isNaN = false

/-- The name and the value that a filter is sent as. -/
def pair (filter : Filter) : String × String := (filter.column, filter.operator)

/-- A filter is known from the name and the value that it is sent as: its operator begins with
another letter than those of other kinds, and what follows is its key or its number. -/
theorem eq_of_pair_eq {filter other : Filter} (comparable : filter.IsComparable)
    (comparable' : other.IsComparable) (same : filter.pair = other.pair) : filter = other := by
  obtain ⟨column, operator⟩ := Prod.ext_iff.mp same
  have texts := congrArg String.toList operator
  cases filter <;> cases other <;>
    simp [pair, Filter.column, Filter.operator, String.toList_inj] at column texts
  case equal.equal => rw [column, texts]
  case notNull.notNull => rw [column]
  case atLeast.atLeast column bound column' bound' =>
    have number := comparable bound (List.mem_singleton_self bound)
    have number' := comparable' bound' (List.mem_singleton_self bound')
    rw [column, Binary64.eq_of_plain_eq_of_number number number' texts]
  case atMost.atMost column bound column' bound' =>
    have number := comparable bound (List.mem_singleton_self bound)
    have number' := comparable' bound' (List.mem_singleton_self bound')
    rw [column, Binary64.eq_of_plain_eq_of_number number number' texts]

/-- Filters are known from their names and values, in order. -/
theorem eq_of_map_pair_eq {filters others : List Filter}
    (comparable : ∀ filter ∈ filters, filter.IsComparable)
    (comparable' : ∀ filter ∈ others, filter.IsComparable)
    (same : filters.map pair = others.map pair) : filters = others := by
  induction filters generalizing others with
  | nil => exact (List.map_eq_nil_iff.mp same.symm).symm
  | cons filter rest ih =>
    cases others with
    | nil => cases same
    | cons other rest' =>
      obtain ⟨here, later⟩ := List.cons.inj same
      obtain ⟨first, remaining⟩ := List.forall_mem_cons.mp comparable
      obtain ⟨first', remaining'⟩ := List.forall_mem_cons.mp comparable'
      rw [eq_of_pair_eq first first' here, ih remaining remaining' later]

end Filter

namespace Select

/-- The names of the parameters that are no filters. -/
def reservedNames : List String := ["select", "order", "limit", "offset"]

/-- The names and values that choose a page. -/
def pagePairs (page : Rest.PageRequest) : List (String × String) :=
  [("limit", decimalText page.limit), ("offset", decimalText page.offset)]

/-- All names and values of a request for a page. -/
def requestPairs (select : Select) (page : Rest.PageRequest) : List (String × String) :=
  select.queryPairs ++ pagePairs page

/-- The pairs under reserved names. -/
def ownPairs (pairs : List (String × String)) : List (String × String) :=
  pairs.filter fun pair => reservedNames.contains pair.1

/-- The pairs under other names. -/
def filterPairs (pairs : List (String × String)) : List (String × String) :=
  pairs.filter fun pair => !reservedNames.contains pair.1

/-- The value of the parameter that names the columns. -/
def columnsText (select : Select) : String := ",".intercalate select.columns

/-- The value of the parameter that names the order. -/
def orderText (select : Select) : String := ",".intercalate (select.order.map (· ++ ".asc"))

/-- Whether a select can be told from its parameters. -/
structure IsTellable (select : Select) : Prop where
  columns_ne_nil : select.columns ≠ []
  order_ne_nil : select.order ≠ []
  comma_not_mem_column : ∀ column ∈ select.columns, ',' ∉ column.toList
  comma_not_mem_order : ∀ column ∈ select.order, ',' ∉ column.toList
  comparable : ∀ filter ∈ select.filters, filter.IsComparable
  unreserved : ∀ filter ∈ select.filters, filter.column ∉ reservedNames

/-- Texts without commas are known from what joins them with commas. -/
theorem eq_of_commas_eq {texts others : List String} (clean : ∀ text ∈ texts, ',' ∉ text.toList)
    (clean' : ∀ text ∈ others, ',' ∉ text.toList) (nonempty : texts ≠ []) (nonempty' : others ≠ [])
    (same : ",".intercalate texts = ",".intercalate others) : texts = others := by
  have joined := congrArg String.toList same
  rw [String.toList_intercalate, String.toList_intercalate] at joined
  refine List.map_injective_iff.mpr (fun _ _ => String.toList_inj.mp) ?_
  exact eq_of_intercalate_eq (List.forall_mem_map.mpr clean) (List.forall_mem_map.mpr clean')
    (by simpa using nonempty) (by simpa using nonempty') joined

namespace IsTellable

variable {select other : Select} (tellable : select.IsTellable)

include tellable

/-- A request has the columns first, then one pair for each filter, then the order and the page. -/
theorem requestPairs_eq (page : Rest.PageRequest) :
    select.requestPairs page =
      ("select", select.columnsText) :: select.filters.map Filter.pair ++
        ("order", select.orderText) :: pagePairs page := by
  have columns : select.columns.isEmpty = false := by simpa using tellable.columns_ne_nil
  have order : select.order.isEmpty = false := by simpa using tellable.order_ne_nil
  simp only [requestPairs, queryPairs, columns, order, columnsText, orderText]
  simp [Filter.pair]

/-- The reserved names belong to the parameters of the select and the page, whatever the filters
say. -/
theorem ownPairs_eq (page : Rest.PageRequest) :
    ownPairs (select.requestPairs page) =
      [("select", select.columnsText), ("order", select.orderText)] ++ pagePairs page := by
  have none : ownPairs (select.filters.map Filter.pair) = [] := by
    refine List.filter_eq_nil_iff.mpr (List.forall_mem_map.mpr fun filter listed => ?_)
    exact fun reserved => tellable.unreserved filter listed (List.contains_iff_mem.mp reserved)
  rw [ownPairs] at none
  rw [tellable.requestPairs_eq, ownPairs, List.cons_append, List.filter_cons, List.filter_append,
    none]
  rfl

/-- All other names belong to the filters, in order. -/
theorem filterPairs_eq (page : Rest.PageRequest) :
    filterPairs (select.requestPairs page) = select.filters.map Filter.pair := by
  have all : filterPairs (select.filters.map Filter.pair) = select.filters.map Filter.pair := by
    refine List.filter_eq_self.mpr (List.forall_mem_map.mpr fun filter listed => ?_)
    simpa [Filter.pair] using tellable.unreserved filter listed
  rw [filterPairs] at all
  rw [tellable.requestPairs_eq, filterPairs, List.cons_append, List.filter_cons, List.filter_append,
    all]
  exact List.append_nil _

/-- The parameters of a request say what it asks for and which page. -/
theorem eq_of_requestPairs_eq (tellable' : other.IsTellable) {page page' : Rest.PageRequest}
    (same : select.requestPairs page = other.requestPairs page') :
    select.columns = other.columns ∧ select.filters = other.filters ∧ select.order = other.order ∧
      page = page' := by
  have own := congrArg ownPairs same
  have filters := congrArg filterPairs same
  rw [tellable.ownPairs_eq, tellable'.ownPairs_eq] at own
  rw [tellable.filterPairs_eq, tellable'.filterPairs_eq] at filters
  simp only [pagePairs, List.cons_append, List.nil_append, List.cons.injEq, Prod.mk.injEq, true_and,
    and_true] at own
  obtain ⟨columns, order, limit, offset⟩ := own
  refine ⟨?_, ?_, ?_, ?_⟩
  · exact eq_of_commas_eq tellable.comma_not_mem_column tellable'.comma_not_mem_column
      tellable.columns_ne_nil tellable'.columns_ne_nil columns
  · exact Filter.eq_of_map_pair_eq tellable.comparable tellable'.comparable filters
  · have clean {select : Select} (tellable : select.IsTellable) :
        ∀ text ∈ select.order.map (· ++ ".asc"), ',' ∉ text.toList := by
      refine List.forall_mem_map.mpr fun column listed => ?_
      simpa using tellable.comma_not_mem_order column listed
    have suffixed := eq_of_commas_eq (clean tellable) (clean tellable')
      (by simpa using tellable.order_ne_nil) (by simpa using tellable'.order_ne_nil) order
    exact List.map_injective_iff.mpr (fun _ _ => (String.append_left_inj ".asc").mp) suffixed
  · obtain ⟨count, start⟩ := page
    obtain ⟨count', start'⟩ := page'
    have limits := Binary64.decimalText_injective limit
    have offsets := Binary64.decimalText_injective offset
    rw [Rest.PageRequest.mk.injEq]
    exact ⟨Int.ofNat.inj limits, Int.ofNat.inj offsets⟩

end IsTellable

end Select

/-- The address that a store is asked at says what is asked of a collection and which page. -/
theorem RestStore.eq_of_url_eq {store : RestStore} {select other : Select}
    (tellable : select.IsTellable) (tellable' : other.IsTellable)
    (collection : select.collection = other.collection) {page page' : Rest.PageRequest}
    {request request' : Http.Request} (sent : store.request select page = .ok request)
    (sent' : store.request other page' = .ok request') (same : request.url = request'.url) :
    select.columns = other.columns ∧ select.filters = other.filters ∧ select.order = other.order ∧
      page = page' := by
  have nonempty (select : Select) (page : Rest.PageRequest) : select.requestPairs page ≠ [] :=
    List.cons_ne_nil _ _
  obtain ⟨url, read, address⟩ := Http.Request.url_of_toAddress (nonempty select page) sent
  obtain ⟨url', read', address'⟩ := Http.Request.url_of_toAddress (nonempty other page') sent'
  rw [collection, read', Option.some.injEq] at read
  rw [address, address', read] at same
  exact tellable.eq_of_requestPairs_eq tellable'
    (Http.Url.eq_of_withPairs_eq (nonempty select page) (nonempty other page') same)

end ArgoQuery
