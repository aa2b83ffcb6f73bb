import ArgoQuery.Join

/-!
# Requests in time

With a store that takes the same time for every answer, the requests of a join follow from how many
are made: the first one alone, the others in groups that are made and answered together. A store
keeps count of the requests that it has not answered; one that a query abandons is never taken off
that count.
-/

namespace ArgoQuery.Engine

/-- A request with the moments of its making and its answer, in milliseconds from the start. -/
structure TimedRequest where
  select : Select
  askedAt : Nat
  answeredAt : Nat
deriving DecidableEq, Repr

/-- The requests of the dependent side, `index` of them having been made before. -/
def timeDependent (latency concurrency : Nat) (index : Nat) : List Select → List TimedRequest
  | [] => []
  | select :: rest =>
    let group := index / max 1 concurrency
    ⟨select, latency * (1 + group), latency * (2 + group)⟩ ::
      timeDependent latency concurrency (index + 1) rest

/-- The requests of a join. -/
def timeline (latency concurrency : Nat) : List Select → List TimedRequest
  | [] => []
  | driving :: dependent =>
    ⟨driving, 0, latency⟩ :: timeDependent latency concurrency 0 dependent

/-- When the last answer comes. -/
def lastAnswer (requests : List TimedRequest) : Nat :=
  requests.foldl (fun latest request => max latest request.answeredAt) 0

/-- How many requests are unanswered just after a moment. -/
def unansweredAt (requests : List TimedRequest) (now : Nat) : Nat :=
  requests.countP fun request => request.askedAt ≤ now && now < request.answeredAt

/-- The most requests that are unanswered at the same time. A request that is answered at once still
counts while it is answered. -/
def busiest (requests : List TimedRequest) : Nat :=
  requests.foldl (fun most request => max most (max 1 (unansweredAt requests request.askedAt))) 0

/-- The count that a store keeps: requests that were abandoned, and the highest count so far. -/
structure Traffic where
  abandoned : Nat := 0
  peak : Nat := 0
deriving DecidableEq, Repr

/-- The count after further requests, some of which are abandoned. -/
def Traffic.add (traffic : Traffic) (requests : List TimedRequest) (abandoned : Nat) : Traffic where
  abandoned := traffic.abandoned + abandoned
  peak := if requests.isEmpty then traffic.peak
    else max traffic.peak (traffic.abandoned + busiest requests)

end ArgoQuery.Engine
