/-!
# Sorting by insertion

Every item is moved up from the end of those that are sorted already, past the items that it comes
before. Items that neither comes before the other keep their order.
-/

namespace ArgoQuery.Sorting

variable {α : Type} (before : α → α → Bool)

/-- Places an item among sorted ones that are held last first. -/
def place (item : α) : List α → List α
  | [] => [item]
  | last :: rest => if before item last then last :: place item rest else item :: last :: rest

/-- Inserts items, one after the other, into sorted ones. -/
def insertAll (sorted items : List α) : List α :=
  (items.foldl (fun placed item => place before item placed) sorted.reverse).reverse

/-- Two items in order. -/
def orderPair (first second : α) : α × α :=
  if before second first then (second, first) else (first, second)

/-- Four items in order, with five comparisons: both pairs are ordered, then their first items and
their last items are compared, and what is neither the least nor the greatest of all comes last. -/
def orderFour (a b c d : α) : List α :=
  let (a, b) := orderPair before a b
  let (c, d) := orderPair before c d
  let (least, left, right, greatest) := match before c a, before d b with
    | false, false => (a, b, c, d)
    | false, true => (a, c, d, b)
    | true, false => (c, a, b, d)
    | true, true => (c, a, d, b)
  let (left, right) := orderPair before left right
  [least, left, right, greatest]

end ArgoQuery.Sorting
