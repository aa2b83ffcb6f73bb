import ArgoQuery.Sorting.Runs

/-!
# Sorting by partition

A list is parted at one of its items, the pivot, into the items that come before it and the others,
both in their old order, and the parts are sorted the same way. Where nothing comes before the
pivot, the items that it does not come before are in place and only the others are sorted.
-/

namespace ArgoQuery.Sorting

variable {α : Type} (before : α → α → Bool)

/-- The one of three places that is neither first nor last. -/
def middleOfThree (comesBefore : Nat → Nat → Bool) (a b c : Nat) : Nat :=
  let aboveA := comesBefore a b
  if aboveA == comesBefore a c then if comesBefore b c != aboveA then c else b else a

/-- A place near the middle of the order: the middle of three places, each of which is itself chosen
from the `width` places that it starts as long as these are eight or more. -/
def nearMiddle (comesBefore : Nat → Nat → Bool) (width a b c : Nat) : Nat :=
  if 8 ≤ width then
    let step := width / 8
    let among (start : Nat) : Nat :=
      nearMiddle comesBefore step start (start + step * 4) (start + step * 7)
    middleOfThree comesBefore (among a) (among b) (among c)
  else middleOfThree comesBefore a b c
termination_by width

/-- The place of the pivot of a list. -/
def pivotPlace (items : List α) : Nat :=
  let held := items.toArray
  let comesBefore (i j : Nat) : Bool :=
    match held[i]?, held[j]? with
    | some x, some y => before x y
    | _, _ => false
  let width := items.length / 8
  nearMiddle comesBefore width 0 (width * 4) (width * 7)

/-- Parts a list at a place: the items that belong to the left, and the others. The item at the
place itself goes where it is told. -/
def partAt (place : Nat) (pivotGoesLeft : Bool) (belongs : α → Bool) (items : List α) :
    List α × List α :=
  let earlier := items.take place
  let pivot := (items.drop place).take 1
  let later := items.drop (place + 1)
  let rejects (item : α) : Bool := !belongs item
  (earlier.filter belongs ++ (if pivotGoesLeft then pivot else []) ++ later.filter belongs,
    earlier.filter rejects ++ (if pivotGoesLeft then [] else pivot) ++ later.filter rejects)

/-- Sorts a list. After so many partitions, one inside the other, as `limit` says, a part is sorted
by runs. `bound` is the pivot to the left of the list, if there is one. -/
def sortByParts? : (limit : Nat) → (bound : Option α) → List α → Option (List α)
  | limit, bound, items =>
    if items.length ≤ shortLength then sortShort? before items
    else match limit with
      | 0 => sortByRuns? before true some items
      | limit + 1 =>
        let place := pivotPlace before items
        match items[place]? with
        | none => some items
        | some pivot =>
          let (left, right) := partAt place false (before · pivot) items
          if left.isEmpty || bound.any fun bound => !before bound pivot then
            let (equal, greater) := partAt place true (fun item => !before pivot item) items
            (sortByParts? limit none greater).map (equal ++ ·)
          else do
            let lower ← sortByParts? limit bound left
            let upper ← sortByParts? limit (some pivot) right
            return lower ++ upper

/-- How many partitions inside each other a list is given. -/
def partitionLimit (total : Nat) : Nat := 2 * Nat.log2 total

end ArgoQuery.Sorting
