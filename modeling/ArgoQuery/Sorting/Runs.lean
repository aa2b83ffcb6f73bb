import ArgoQuery.Sorting.Insertion
import ArgoQuery.Sorting.Merge

/-!
# Sorting by runs

A list is cut into runs. Where it is long in order already, or long in reverse, that is a run;
elsewhere a run is a number of items, sorted at once or left for later. Neighbouring runs are merged
in the order of a balanced tree over all items. Runs that are both unsorted are only put together.
-/

namespace ArgoQuery.Sorting

variable {α : Type} (before : α → α → Bool)

/-- Half of a short list in order. If the list has eight items or more, the first four are ordered
together. -/
def sortHalf (isWide : Bool) : List α → List α
  | a :: b :: c :: d :: rest =>
    if isWide then insertAll before (orderFour before a b c d) rest
    else insertAll before [] (a :: b :: c :: d :: rest)
  | items => insertAll before [] items

/-- Sorts a short list: its halves by insertion, then a merge from both ends. -/
def sortShort? (items : List α) : Option (List α) :=
  let (left, right) := items.splitAt (items.length / 2)
  let isWide := decide (8 ≤ items.length)
  mergeEnds? before (sortHalf before isWide left) (sortHalf before isWide right)

/-- The most items that are sorted as a short list. -/
def shortLength : Nat := 32

/-- A part of a list that stands together: in order if it says so. -/
structure Run (α : Type) where
  items : List α
  isSorted : Bool

/-- How many items there are until two neighbours are not related. -/
def chainLength (related : α → α → Bool) : List α → Nat
  | [] => 0
  | [_] => 1
  | first :: second :: rest =>
    if related first second then chainLength related (second :: rest) + 1 else 1

/-- The items at the start that are in order, or in strictly descending order and then reversed, if
there are at least so many. -/
def leadingRun? (least : Nat) (items : List α) : Option (List α) :=
  let descending := chainLength (fun first second => before second first) items
  let ascending := chainLength (goesFirst before) items
  if 1 < descending then
    if least ≤ descending then some (items.take descending).reverse else none
  else if least ≤ ascending then some (items.take ascending)
  else none

/-- The runs of a list. A run that is not there already is sorted as a short list if `atOnce` says
so, and left unsorted otherwise. Every run but the last has at least one item, so `fuel` beyond the
number of items is never used. -/
def runsOf? (atOnce : Bool) (least : Nat) : (fuel : Nat) → List α → Option (List (Run α))
  | 0, _ | _, [] => some []
  | fuel + 1, items =>
    match leadingRun? before least items with
    | some run =>
      (runsOf? atOnce least fuel (items.drop run.length)).map (⟨run, true⟩ :: ·)
    | none =>
      if atOnce then do
        let run ← sortShort? before (items.take shortLength)
        let later ← runsOf? atOnce least fuel (items.drop shortLength)
        return ⟨run, true⟩ :: later
      else (runsOf? atOnce least fuel (items.drop least)).map (⟨items.take least, false⟩ :: ·)

/-- The least length of a run that is there already: half of a list, but 64 at most, and about the
square root of the length of a list of more than 4096 items. -/
def leastRunLength (total : Nat) : Nat :=
  if total ≤ 4096 then min (total - total / 2) 64
  else
    let shift := (1 + Nat.log2 total) / 2
    (Nat.pow 2 shift + total / Nat.pow 2 shift) / 2

/-- How deep in the merge tree over `total` items the boundary of two neighbouring runs lies: the
number of leading binary digits that the middles of the two runs have in common, as fractions of the
whole. -/
def boundaryDepth (total start middle stop : Nat) : Nat :=
  let scale := (Nat.pow 2 62 + total - 1) / total
  63 - Nat.log2 ((scale * (start + middle)) ^^^ (scale * (middle + stop)))

/-- Joins a run with those before it, nearest first, whose boundary is at least so deep. -/
def collapse? (join? : Run α → Run α → Option (Run α)) (depth : Nat) :
    List (Run α × Nat) → Run α → Option (List (Run α × Nat) × Run α)
  | [], run => some ([], run)
  | (left, level) :: earlier, run =>
    if depth ≤ level then (join? left run).bind (collapse? join? depth earlier)
    else some ((left, level) :: earlier, run)

/-- Joins the runs of a list in the order of the merge tree. `earlier` holds the runs before the one
at hand, nearest first, each with the depth of the boundary after it. -/
def joinAll? (join? : Run α → Run α → Option (Run α)) (total : Nat) :
    (earlier : List (Run α × Nat)) → (start : Nat) → Run α → List (Run α) → Option (Run α)
  | earlier, _, run, [] => (collapse? join? 0 earlier run).map Prod.snd
  | earlier, start, run, next :: later =>
    let middle := start + run.items.length
    let depth := boundaryDepth total start middle (middle + next.items.length)
    (collapse? join? depth earlier run).bind fun (earlier, joined) =>
      joinAll? join? total ((joined, depth) :: earlier) middle next later

/-- The items of a run in order, given how to sort those of an unsorted one. -/
def Run.sorted? (sortItems? : List α → Option (List α)) (run : Run α) : Option (List α) :=
  if run.isSorted then some run.items else sortItems? run.items

/-- Two neighbouring runs as one: merged, unless both are unsorted. -/
def Run.join? (sortItems? : List α → Option (List α)) (left right : Run α) : Option (Run α) :=
  if left.isSorted || right.isSorted then do
    let leftItems ← left.sorted? sortItems?
    let rightItems ← right.sorted? sortItems?
    return ⟨merge before leftItems rightItems, true⟩
  else some ⟨left.items ++ right.items, false⟩

/-- Sorts a list by its runs, given how to sort the items of unsorted runs. -/
def sortByRuns? (atOnce : Bool) (sortItems? : List α → Option (List α)) (items : List α) :
    Option (List α) :=
  let total := items.length
  (runsOf? before atOnce (leastRunLength total) total items).bind fun
    | [] => some []
    | run :: later =>
      (joinAll? (Run.join? before sortItems?) total [] 0 run later).bind
        (Run.sorted? sortItems?)

end ArgoQuery.Sorting
