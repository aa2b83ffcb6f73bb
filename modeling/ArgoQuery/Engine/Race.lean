/-!
# What ends a query

A query waits for its join, its advisory, a cancellation and its deadline at the same time. Each
time something becomes due it looks at them in a fixed order: the cancellation first, then the join,
then the deadline, then the advisory. The advisory is waited for after the join, but never past the
deadline, and it never decides whether the query succeeds.
-/

namespace ArgoQuery.Engine

/-- When things become due, in milliseconds from the start, if they ever do. -/
structure Moments where
  join : Option Nat
  /-- Whether the join has no result at that moment but an error. -/
  joinFails : Bool
  advisory : Option Nat
  cancellation : Option Nat
  deadline : Nat
deriving DecidableEq, Repr

/-- What a query waits for: the join, with the advisory in hand or not, or only the advisory. -/
inductive Phase where
  | joining (advised : Bool)
  | advising
deriving DecidableEq, Repr

/-- How a query ends. -/
inductive Ending where
  | cancelled
  | timedOut
  | failed
  /-- With the rows of the join, and with the advisory if it came in time. -/
  | finished (advised : Bool)
deriving DecidableEq, Repr

/-- What a look at a moment comes to. -/
inductive Look where
  | waiting (phase : Phase)
  | ended (ending : Ending)
deriving DecidableEq, Repr

namespace Moments

/-- Whether something has become due. -/
def isDue (moment : Option Nat) (now : Nat) : Bool := moment.any (· ≤ now)

/-- Looks at the advisory, the join being done. -/
def lookAtAdvisory (moments : Moments) (now : Nat) : Look :=
  if isDue moments.advisory now then .ended (.finished true)
  else if moments.deadline ≤ now then .ended (.finished false)
  else .waiting .advising

/-- Looks at everything that a phase waits for. -/
def look (moments : Moments) (now : Nat) (phase : Phase) : Look :=
  if isDue moments.cancellation now then .ended .cancelled
  else match phase with
    | .advising => moments.lookAtAdvisory now
    | .joining advised =>
      if isDue moments.join now then
        if moments.joinFails then .ended .failed
        else if advised then .ended (.finished true)
        else moments.lookAtAdvisory now
      else if moments.deadline ≤ now then .ended .timedOut
      else .waiting (.joining (advised || isDue moments.advisory now))

/-- The moments at which the query looks, in order. -/
def wakeUps (moments : Moments) : List Nat :=
  (0 :: moments.deadline :: (moments.join.toList ++ moments.advisory.toList ++
    moments.cancellation.toList)).mergeSort

/-- Looks at one moment after the other until the query ends. -/
def watch (moments : Moments) : Phase → List Nat → Option (Nat × Ending)
  | _, [] => none
  | phase, now :: later =>
    match moments.look now phase with
    | .ended ending => some (now, ending)
    | .waiting next => moments.watch next later

/-- When and how the query ends. At the latest it does so at its deadline. -/
def ending (moments : Moments) : Nat × Ending :=
  (moments.watch (.joining false) moments.wakeUps).getD (moments.deadline, .timedOut)

/-- Whether the query gets to ask for an advisory. If it does, then with its first look. -/
def asksForAdvisory (moments : Moments) : Bool :=
  match moments.look 0 (.joining false) with
  | .waiting _ | .ended (.finished _) => true
  | .ended _ => false

end Moments

end ArgoQuery.Engine
