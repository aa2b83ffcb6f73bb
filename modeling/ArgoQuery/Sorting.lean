import ArgoQuery.Sorting.Partition

/-!
# Sorting

Sorting by a comparison that says whether one item comes before another. Where neither of two items
does, they keep their order. If the comparison is an order, that leaves nothing to choose. If it
contradicts itself, the result depends on which items are compared, and sorting may notice the
contradiction and stop without any result. So the way of sorting is fixed here: by insertion up to
20 items, which never stops, by runs and parts beyond.
-/

namespace ArgoQuery.Sorting

variable {α : Type} (before : α → α → Bool)

/-- The most items that are sorted by insertion alone. -/
def insertionLength : Nat := 20

/-- Sorts a list of any length, unless it is noticed that the comparison contradicts itself. Runs of
a list of up to two short ones are sorted at once. -/
def sort? (items : List α) : Option (List α) :=
  if items.length ≤ insertionLength then some (insertAll before [] items)
  else
    let sortItems? (part : List α) : Option (List α) :=
      sortByParts? before (partitionLimit part.length) none part
    sortByRuns? before (decide (items.length ≤ 2 * shortLength)) sortItems? items

end ArgoQuery.Sorting
