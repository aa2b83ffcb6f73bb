/-!
# Requests in flight

Requests are made in a given order, but only so many at a time: whenever one is answered, the next
one is made. The answers may come in any order, which a *schedule* describes.
-/

namespace ArgoQuery.Join

/-- Chooses, by the number of answers so far, which of the unanswered requests is answered next: its
place among them, counted around. Every order of answers has a schedule. -/
abbrev Schedule := Nat → Nat

/-- Answers come in the order of the requests. -/
def oldestFirst : Schedule := fun _ => 0

/-- What happens to a request. -/
inductive FetchEvent (Request : Type) where
  | asked (request : Request)
  | answered (request : Request)
deriving DecidableEq, Repr

namespace FetchEvent

/-- What happens to the image of a request. -/
def map {Request Other : Type} (f : Request → Other) : FetchEvent Request → FetchEvent Other
  | asked request => asked (f request)
  | answered request => answered (f request)

/-- The request that is asked, if one is. -/
def asked? {Request : Type} : FetchEvent Request → Option Request
  | asked request => some request
  | answered _ => none

/-- The request that is answered, if one is. -/
def answered? {Request : Type} : FetchEvent Request → Option Request
  | asked _ => none
  | answered request => some request

end FetchEvent

/-- The requests still to be made and those that are unanswered, oldest first. -/
structure FetchWindow (Request : Type) where
  waiting : List Request
  pending : List Request
deriving DecidableEq, Repr

namespace FetchWindow

variable {Request : Type}

/-- How many requests can be made before there are as many unanswered ones as the window holds. -/
def free (capacity : Nat) (window : FetchWindow Request) : Nat :=
  min (capacity - window.pending.length) window.waiting.length

/-- The window after all the requests that it has room for. -/
def fill (capacity : Nat) (window : FetchWindow Request) : FetchWindow Request :=
  let count := window.free capacity
  ⟨window.waiting.drop count, window.pending ++ window.waiting.take count⟩

/-- The requests that filling the window makes. -/
def asked (capacity : Nat) (window : FetchWindow Request) : List Request :=
  window.waiting.take (window.free capacity)

/-- The events from a window on until every request is answered. `left` is the number of answers
still to come, and `answers` the number of those before. -/
def run (capacity : Nat) (schedule : Schedule) :
    (left answers : Nat) → FetchWindow Request → List (FetchEvent Request)
  | 0, _, _ => []
  | left + 1, answers, window =>
    let filled := window.fill capacity
    let place := schedule answers % filled.pending.length
    let made := (window.asked capacity).map FetchEvent.asked
    match filled.pending[place]? with
    | some request =>
      made ++ .answered request ::
        run capacity schedule left (answers + 1) ⟨filled.waiting, filled.pending.eraseIdx place⟩
    | none => made

/-- The events of a run of requests. A window holds at least one. -/
def events (capacity : Nat) (schedule : Schedule) (requests : List Request) :
    List (FetchEvent Request) :=
  run (max 1 capacity) schedule requests.length 0 ⟨requests, []⟩

end FetchWindow

end ArgoQuery.Join
