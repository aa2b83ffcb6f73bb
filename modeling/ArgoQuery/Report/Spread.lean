import ArgoQuery.Binary64.Rounding
import ArgoQuery.Table.Row

/-!
# The spread of a column

The smallest, the largest and the mean of the numbers in a column. Fields without a number do not
count, and a NaN is neither the smallest nor the largest as long as there is a number.
-/

namespace ArgoQuery

/-- How far some numbers spread, and how many there are. -/
structure Spread where
  min : Binary64
  max : Binary64
  mean : Binary64
  count : Nat
deriving DecidableEq, Repr

namespace Spread

/-- The sum of numbers, added up in order. -/
def total (numbers : List Binary64) : Binary64 := numbers.foldl (· + ·) 0

/-- The spread of the given numbers, if there are any. -/
def ofNumbers? : List Binary64 → Option Spread
  | [] => none
  | first :: rest => some {
      min := rest.foldl Binary64.lesser first
      max := rest.foldl Binary64.greater first
      mean := total (first :: rest) / Binary64.ofNat (rest.length + 1)
      count := rest.length + 1 }

/-- The spread of the numbers in a column, if it has any. -/
def ofColumn? (rows : List Row) (column : String) : Option Spread :=
  ofNumbers? (rows.filterMap (·.number? column))

end Spread

end ArgoQuery
