import ArgoQuery.Sorting
import ArgoQuery.Table.Row

/-!
# The order of rows

Rows are compared column by column: as numbers where both have one, as keys otherwise, a missing key
coming first. Numbers are compared in the total order of all bit patterns. With numbers and texts in
one column the comparison can contradict itself. Then `ArgoQuery.Sorting` decides in which order the
rows end, and whether they can be sorted at all.
-/

namespace ArgoQuery

/-- Nothing comes before every key. -/
def compareKeys : Option String → Option String → Ordering
  | none, none => .eq
  | none, some _ => .lt
  | some _, none => .gt
  | some left, some right => compareOfLessAndEq left right

namespace Row

/-- Compares two rows by one column. -/
def compareColumn (column : String) (left right : Row) : Ordering :=
  match left.number? column, right.number? column with
  | some leftNumber, some rightNumber => leftNumber.compareTotal rightNumber
  | _, _ => compareKeys (left.key? column) (right.key? column)

/-- Compares two rows by the first column in which they differ. -/
def compareBy : List String → Row → Row → Ordering
  | [], _, _ => .eq
  | column :: columns, left, right =>
    (compareColumn column left right).then (compareBy columns left right)

/-- Whether a row comes before another in the order of the columns. -/
def comesBefore (columns : List String) (left right : Row) : Bool :=
  decide (compareBy columns left right = .lt)

/-- The rows in the order of the columns, unless it is noticed that the comparison contradicts
itself on them. -/
def sort? (columns : List String) (rows : List Row) : Option (List Row) :=
  Sorting.sort? (comesBefore columns) rows

end Row

end ArgoQuery
