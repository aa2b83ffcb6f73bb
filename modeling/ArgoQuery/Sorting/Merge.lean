/-!
# Merging sorted lists

Of two lists that are sorted already, the left one goes first wherever neither item comes before the
other. A merge can be made from the front, where the lesser of two first items is next, from the
back, where the greater of two last items is next, or from both ends to the middle. For an order all
three agree; for a comparison that contradicts itself they need not, and the merge from both ends
may fail.
-/

namespace ArgoQuery.Sorting

variable {α : Type} (before : α → α → Bool)

/-- Whether an item of the left list goes before one of the right list. -/
def goesFirst (left right : α) : Bool := !before right left

/-- Merges from the front. -/
def mergeForward (left right : List α) : List α := left.merge right (goesFirst before)

/-- Merges from the back: the same on the reversed lists, with the right one as the first. -/
def mergeBackward (left right : List α) : List α :=
  (right.reverse.merge left.reverse fun right left => goesFirst before left right).reverse

/-- Merges from the end of the shorter list: from the front unless the right one is shorter. -/
def merge (left right : List α) : List α :=
  if left.length ≤ right.length then mergeForward before left right
  else mergeBackward before left right

/-- The first items of a merge, and what they leave of the two lists. -/
def mergeSteps (first : α → α → Bool) : (count : Nat) → List α → List α → List α × List α × List α
  | count + 1, x :: xs, y :: ys =>
    if first x y then
      let (taken, rest) := mergeSteps first count xs (y :: ys)
      (x :: taken, rest)
    else
      let (taken, rest) := mergeSteps first count (x :: xs) ys
      (y :: taken, rest)
  | _, xs, ys => ([], xs, ys)

/-- Merges from both ends, half of the items from either; an item between the halves is the one that
is left. No order lets the two ends want the same item. A comparison that contradicts itself may,
and then the merge notices it and gives nothing. -/
def mergeEnds? (left right : List α) : Option (List α) :=
  let half := (left.length + right.length) / 2
  let (front, leftBehind, rightBehind) := mergeSteps (goesFirst before) half left right
  let (back, rightAhead, leftAhead) :=
    mergeSteps (fun right left => goesFirst before left right) half right.reverse left.reverse
  let fromLeft := left.length - leftAhead.length
  let fromRight := right.length - rightAhead.length
  if fromLeft ≤ leftBehind.length ∧ fromRight ≤ rightBehind.length then
    some (front ++ (leftBehind.take (leftBehind.length - fromLeft) ++
      rightBehind.take (rightBehind.length - fromRight)) ++ back.reverse)
  else none

end ArgoQuery.Sorting
