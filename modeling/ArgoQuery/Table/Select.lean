import ArgoQuery.Table.Row

/-!
# Requests for rows

A select asks one collection for the rows that pass all filters. It can be evaluated on a row, and
it can be written as the name and value pairs of a query string.
-/

namespace ArgoQuery

/-- A condition that a store can test. -/
inductive Filter where
  /-- The field has that key. -/
  | equal (column : String) (key : String)
  | notNull (column : String)
  | atLeast (column : String) (bound : Binary64)
  | atMost (column : String) (bound : Binary64)
deriving DecidableEq, Repr

namespace Filter

/-- The column that a filter is on. -/
def column : Filter → String
  | equal column _ | notNull column | atLeast column _ | atMost column _ => column

/-- The operator and its operand in a query string. -/
def operator : Filter → String
  | equal _ key => "eq." ++ key
  | notNull _ => "not.is.null"
  | atLeast _ bound => "gte." ++ bound.plain
  | atMost _ bound => "lte." ++ bound.plain

/-- Whether a row passes. -/
def admits (filter : Filter) (row : Row) : Bool :=
  match filter with
  | equal column key => row.key? column == some key
  | notNull column => (row.get? column).isSome
  | atLeast column bound => (row.number? column).any fun number => decide (bound ≤ number)
  | atMost column bound => (row.number? column).any fun number => decide (number ≤ bound)

end Filter

/-- A request to one collection. -/
structure Select where
  collection : String
  /-- The fields asked for; all of them if none is named. -/
  columns : List String := []
  filters : List Filter := []
  /-- The columns to sort by. -/
  order : List String := []
  limit : Option Nat := none
deriving DecidableEq, Repr

namespace Select

/-- Whether a row passes all filters of a select. -/
def admits (select : Select) (row : Row) : Bool := select.filters.all (·.admits row)

/-- A row as the select returns it. -/
def projectRow (select : Select) (row : Row) : Row :=
  if select.columns.isEmpty then row else row.project select.columns

/-- The names and values of the query string, apart from those that choose a page. -/
def queryPairs (select : Select) : List (String × String) :=
  let columns := if select.columns.isEmpty then "*" else ",".intercalate select.columns
  let ascending := select.order.map (· ++ ".asc")
  ("select", columns) :: select.filters.map (fun filter => (filter.column, filter.operator)) ++
    (if select.order.isEmpty then [] else [("order", ",".intercalate ascending)])

end Select

end ArgoQuery
