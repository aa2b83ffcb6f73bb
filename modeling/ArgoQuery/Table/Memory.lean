import ArgoQuery.Table.Order
import ArgoQuery.Table.Store

/-!
# A store in memory

Collections held as lists of rows, evaluated the way a server would: filter, sort, cut off, project.
Whole collections and single floats can be made to fail.
-/

namespace ArgoQuery

/-- Collections by name, with what is made to fail. -/
structure MemoryStore where
  collections : List (String × List Row) := []
  failingCollections : List String := []
  failingFloats : List String := []
deriving Repr

namespace MemoryStore

/-- The rows of a collection; one that does not exist has none. -/
def rowsOf (store : MemoryStore) (collection : String) : List Row :=
  (store.collections.lookup collection).getD []

/-- The first float that a select asks for and that is made to fail. -/
def failingFloat? (store : MemoryStore) (select : Select) : Option String :=
  select.filters.findSome? fun
    | .equal column key =>
      if column = "float_id" ∧ key ∈ store.failingFloats then some key else none
    | _ => none

/-- The stored rows that a select asks for, in its order, if they can be sorted by it. -/
def found? (store : MemoryStore) (select : Select) : Option (List Row) :=
  let admitted := (store.rowsOf select.collection).filter select.admits
  let sorted? := if select.order.isEmpty then some admitted else Row.sort? select.order admitted
  sorted?.map fun sorted =>
    match select.limit with
    | some limit => sorted.take limit
    | none => sorted

/-- Answers a select; a failing collection comes before a failing float. Without an answer the rows
cannot be sorted, which stops the program. -/
def answer? (store : MemoryStore) (select : Select) : Option (Except StoreError (List Row)) :=
  if select.collection ∈ store.failingCollections then
    some (.error (.status 503 (select.collection ++ " is unavailable.")))
  else match store.failingFloat? select with
    | some float => some (.error (.status 500 ("float " ++ float ++ " failed.")))
    | none => (store.found? select).map fun rows => .ok (rows.map select.projectRow)

/-- Whether a select stops the program. -/
def halts (store : MemoryStore) (select : Select) : Bool := (store.answer? select).isNone

/-- The answers of the store. No program is left to receive the answer to a select that stops it. -/
def toStore (store : MemoryStore) : Store := fun select => (store.answer? select).getD (.ok [])

end MemoryStore

end ArgoQuery
