import ArgoQuery.Join
import ArgoQuery.Table.Memory

/-!
# Joins over a store in memory

A store in memory sorts the rows of a select, and where they cannot be sorted the program stops. A
join over it is the join over its answers, up to the first select that stops it.
-/

namespace ArgoQuery

/-- An execution that some answers stop: nothing comes of it, and no event from the first of these
answers on. -/
def Join.Execution.haltedOn (halts : Select → Bool) (execution : Execution) : Execution :=
  if (execution.events.filterMap FetchEvent.answered?).any halts then
    { events := execution.events.takeWhile fun event => !event.answered?.any halts
      result := .error .disorder }
  else execution

namespace MemoryStore

/-- Joins the collections of a store in memory. How the fetches of the floats go is given. -/
def joinAlong (store : MemoryStore) (fetching : List String → List (Join.FetchEvent String))
    (names : CollectionNames) (descriptor : Descriptor) : Join.Execution :=
  (Join.executeAlong fetching store.toStore names descriptor).haltedOn store.halts

/-- Joins the collections of a store in memory. At most `concurrency` floats are fetched at a time,
and at least one; the schedule says in which order their fetches end. -/
def join (store : MemoryStore) (names : CollectionNames) (concurrency : Nat)
    (schedule : Join.Schedule) (descriptor : Descriptor) : Join.Execution :=
  store.joinAlong (Join.FetchWindow.events concurrency schedule) names descriptor

end MemoryStore

end ArgoQuery
