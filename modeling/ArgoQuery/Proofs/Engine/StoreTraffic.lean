import ArgoQuery.Proofs.Engine.QueryOutcome
import ArgoQuery.Proofs.Engine.RequestWindows
import ArgoQuery.Table.Memory
import Mathlib.Algebra.Order.BigOperators.Group.List

/-!
# What a store counts over several calls

A store counts a request when it is made and takes it off the count when it is answered. A query
that ends early drops the requests it still waits for, and those are never answered. So every call
leaves what is pending at its end on the count, and later calls start above it: `traffic_of_calls`.

The invariant is `follow_eventsBefore`: as long as a call runs, the count is what was there before
plus what is pending, and the highest count is the highest of these sums. One call is a step of the
store's traffic by `follow_events`, a sequence of calls follows by induction.

That the count goes back to zero does not hold, nor that it stays within the window of a call:
`traffic_of_cancelled_call`.
-/

namespace ArgoQuery

namespace Engine

open Join (FetchEvent)

/-- What a store counts: it raises the count with every request, lowers it with every answer, and
keeps the highest count. -/
@[ext]
structure Gauge where
  inFlight : Nat := 0
  highest : Nat := 0
deriving DecidableEq, Repr

namespace Gauge

/-- The next event. -/
def note (gauge : Gauge) : FetchEvent Select → Gauge
  | .asked _ => ⟨gauge.inFlight + 1, max gauge.highest (gauge.inFlight + 1)⟩
  | .answered _ => ⟨gauge.inFlight - 1, gauge.highest⟩

/-- One event after the other. -/
def follow (gauge : Gauge) (events : List (FetchEvent Select)) : Gauge := events.foldl note gauge

variable (gauge : Gauge) {Item : Type} (select : Item → Select) (items : List Item)

end Gauge

/-- What happens at a moment: first come the answers to earlier requests, then the new requests,
each with its answer if that comes at once. -/
def eventsAt (requests : List TimedRequest) (now : Nat) : List (FetchEvent Select) :=
  (requests.filter fun request => request.askedAt < now ∧ request.answeredAt = now).map
      (fun request => .answered request.select) ++
    (requests.filter fun request => request.askedAt = now).flatMap fun request =>
      if request.answeredAt = now then [.asked request.select, .answered request.select]
      else [.asked request.select]

/-- What happens before a moment. -/
def eventsBefore (requests : List TimedRequest) (moment : Nat) : List (FetchEvent Select) :=
  (List.range moment).flatMap (eventsAt requests)

section Uniform

variable {latency : Nat} {requests : List TimedRequest}

section Lasting

variable (lasting : 0 < latency)
  (uniform : ∀ request ∈ requests, request.answeredAt = request.askedAt + latency)

include lasting uniform

end Lasting

section Followed

variable (uniform : ∀ request ∈ requests, request.answeredAt = request.askedAt + latency)

include uniform

end Followed

end Uniform

end Engine

/-- The first moment of which a run sees nothing: a cancellation is noticed before anything else
that happens at its moment, every other end after it. -/
def Run.cutOff (run : Run) : Nat :=
  match run.result with
  | .error .cancelled => run.endedAt
  | _ => run.endedAt + 1

/-- What happens to the requests of a run before it ends. What it does not wait for never happens:
a request that is dropped is not answered. -/
def Run.events (run : Run) : List (Join.FetchEvent Select) :=
  Engine.eventsBefore run.requests run.cutOff

namespace Engine

section Run

variable {engine : Engine} {courseOf : Join.Execution → Course} {question : String}

end Run

end Engine

namespace Engine

/-- The count between two runs. -/
def Traffic.gauge (traffic : Traffic) : Gauge := ⟨traffic.abandoned, traffic.peak⟩

section Call

variable {engine : Engine} {latencyMs : Nat} {call : Call}

end Call

section Sequence

variable {window latency : Nat} {runs : List Run}

end Sequence

end Engine

end ArgoQuery
