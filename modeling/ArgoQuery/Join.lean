import ArgoQuery.Join.FetchWindow
import ArgoQuery.Join.KeyIndex
import ArgoQuery.Join.Selects
import ArgoQuery.Table.Order
import ArgoQuery.Table.Store

/-!
# The join

A store cannot join. The driving side is fetched first and indexed; then the dependent side is
fetched once for every float of the index, several at a time, and each of its rows takes the
position of its cycle. Only the first fetch can fail the join: a float whose fetch fails is reported
and left out. The merged rows are sorted in the end, and where they cannot be, the program stops.
-/

namespace ArgoQuery.Join

/-- Why a join has no result. -/
inductive Failure where
  /-- The collection of the driving side has no rows for it. -/
  | store (collection : String) (cause : StoreError)
  /-- Sorting notices that the comparison of rows contradicts itself, and the program stops. -/
  | disorder
deriving DecidableEq, Repr

/-- How far a join came: to the end, or only to an index without any key. -/
inductive Stage where
  | done
  | empty
deriving DecidableEq, Repr

/-- What a join counts on the way. -/
structure Statistics where
  drivingFetched : Nat
  drivingKept : Nat
  distinctKeys : Nat
  duplicateKeys : Nat
  floatsQueried : Nat
  /-- In ascending order. -/
  floatsFailed : List String
  dependentFetched : Nat
  dependentRetained : Nat
  rowsMerged : Nat
  stage : Stage
deriving DecidableEq, Repr

/-- The result of a join. -/
structure Outcome where
  rows : List Row
  statistics : Statistics
deriving DecidableEq, Repr

/-- A join from its first request to its result. -/
structure Execution where
  events : List (FetchEvent Select)
  result : Except Failure Outcome

/-- The answer to the fetch of one float. -/
structure Reply where
  float : String
  answer : Except StoreError (List Row)

namespace Reply

/-- The rows of the answer; a failed fetch has none. -/
def fetched (reply : Reply) : List Row :=
  match reply.answer with
  | .ok rows => rows
  | .error _ => []

/-- Whether the fetch of the float failed. -/
def isFailure (reply : Reply) : Bool :=
  match reply.answer with
  | .ok _ => false
  | .error _ => true

/-- The rows that pass the residual conditions and belong to a cycle of the index. -/
def retained (descriptor : Descriptor) (index : KeyIndex) (reply : Reply) : List Row :=
  (reply.fetched.filter (survives descriptor descriptor.dependent)).filter fun row =>
    (row.key? Column.cycleNumber.name).any fun cycle => cycle ∈ index.cyclesOf reply.float

/-- A retained row with the position of its cycle, its fields in the order of the projection. -/
def merge? (descriptor : Descriptor) (index : KeyIndex) (reply : Reply) (row : Row) :
    Option Row := do
  let cycle ← row.key? Column.cycleNumber.name
  let position ← index.position? ⟨reply.float, cycle⟩
  return (position.onto row).reorder (descriptor.projection.map Column.name)

/-- The rows that a reply adds to the result. -/
def merged (descriptor : Descriptor) (index : KeyIndex) (reply : Reply) : List Row :=
  (reply.retained descriptor index).filterMap (reply.merge? descriptor index)

end Reply

/-- Strings in ascending order. -/
def ascending (texts : List String) : List String :=
  texts.mergeSort fun left right => decide (left ≤ right)

/-- What a join whose index has keys counts, from the replies in the order in which they came. -/
def countReplies (descriptor : Descriptor) (fetched kept : Nat) (index : KeyIndex)
    (replies : List Reply) : Statistics where
  drivingFetched := fetched
  drivingKept := kept
  distinctKeys := index.positions.length
  duplicateKeys := index.duplicates
  floatsQueried := index.floats.length
  floatsFailed := ascending ((replies.filter Reply.isFailure).map Reply.float)
  dependentFetched := (replies.flatMap Reply.fetched).length
  dependentRetained := (replies.flatMap (·.retained descriptor index)).length
  rowsMerged := (replies.flatMap (·.merged descriptor index)).length
  stage := .done

/-- The result of a join whose index has keys, from the replies in the order in which they came. -/
def finish (descriptor : Descriptor) (fetched kept : Nat) (index : KeyIndex)
    (replies : List Reply) : Except Failure Outcome :=
  let merged := replies.flatMap (·.merged descriptor index)
  match Row.sort? (descriptor.ordering.map Column.name) merged with
  | some rows => .ok ⟨rows, countReplies descriptor fetched kept index replies⟩
  | none => .error .disorder

/-- The result of a join without any key. -/
def finishEmpty (fetched kept : Nat) : Outcome :=
  { rows := []
    statistics := {
      drivingFetched := fetched
      drivingKept := kept
      distinctKeys := 0
      duplicateKeys := 0
      floatsQueried := 0
      floatsFailed := []
      dependentFetched := 0
      dependentRetained := 0
      rowsMerged := 0
      stage := .empty } }

/-- Joins the collections of a store. How the fetches of the floats go is given: the fetches that
are made and that end, in the order in which this happens. -/
def executeAlong (fetching : List String → List (FetchEvent String)) (store : Store)
    (names : CollectionNames) (descriptor : Descriptor) : Execution :=
  let driving := scopedSelect names descriptor descriptor.driving none
  let opening := [FetchEvent.asked driving, .answered driving]
  match store driving with
  | .error cause => ⟨opening, .error (.store driving.collection cause)⟩
  | .ok fetched =>
    let kept := fetched.filter (survives descriptor descriptor.driving)
    let index := KeyIndex.ofRows kept
    if index.positions.isEmpty then ⟨opening, .ok (finishEmpty fetched.length kept.length)⟩
    else
      let selectOf (float : String) :=
        scopedSelect names descriptor descriptor.dependent (some float)
      let events := fetching index.floats
      let replies := (events.filterMap FetchEvent.answered?).map fun float =>
        Reply.mk float (store (selectOf float))
      ⟨opening ++ events.map (·.map selectOf),
        finish descriptor fetched.length kept.length index replies⟩

/-- Joins the collections of a store. At most `concurrency` floats are fetched at a time, and at
least one; the schedule says in which order their fetches end. -/
def execute (store : Store) (names : CollectionNames) (concurrency : Nat) (schedule : Schedule)
    (descriptor : Descriptor) : Execution :=
  executeAlong (FetchWindow.events concurrency schedule) store names descriptor

/-- The selects of an execution in the order in which they were made. -/
def Execution.selects (execution : Execution) : List Select :=
  execution.events.filterMap FetchEvent.asked?

/-- The most requests that were unanswered at the same time: `pending` counts those before the
given events, and `most` is the highest count so far. -/
def peakFrom {Request : Type} (pending most : Nat) : List (FetchEvent Request) → Nat
  | [] => most
  | .asked _ :: rest => peakFrom (pending + 1) (max most (pending + 1)) rest
  | .answered _ :: rest => peakFrom (pending - 1) most rest

end ArgoQuery.Join
