import ArgoQuery.Binary64.Text
import ArgoQuery.Descriptor.Column

/-!
# Conditions on a column

A condition is evaluated on the numeric view of a field. Some are handed to the store: it can test
whether a field is present and compare it with a bound that is included. What the store cannot test,
or tests too generously, is tested again on the rows that it returns: the *residual*.
-/

namespace ArgoQuery

/-- Whether an upper bound itself is admitted. -/
inductive UpperEnd where
  | included
  | excluded
deriving DecidableEq, Repr

/-- A condition on a column. -/
inductive Condition where
  | notNull (column : Column)
  | between (column : Column) (min max : Binary64) (upper : UpperEnd)
  /-- At or beyond the first number, or at or below the second: longitudes across the
  antimeridian. -/
  | wrapped (column : Column) (start stop : Binary64)
deriving DecidableEq, Repr

namespace Condition

/-- The column that a condition is on. -/
def column : Condition → Column
  | notNull column | between column .. | wrapped column .. => column

/-- The side that a condition belongs to; one on a key column belongs to neither. -/
def side? (condition : Condition) : Option Side := condition.column.side?

/-- Whether the store can evaluate the condition, possibly admitting too much. -/
def isPushable : Condition → Bool
  | wrapped .. => false
  | _ => true

/-- Whether the rows that the store admits have to be tested again. -/
def isResidual : Condition → Bool
  | wrapped .. | between _ _ _ .excluded => true
  | _ => false

/-- Whether a number satisfies the condition. -/
def admits (condition : Condition) (number : Binary64) : Bool :=
  match condition with
  | notNull _ => true
  | between _ min max .included => decide (min ≤ number) && decide (number ≤ max)
  | between _ min max .excluded => decide (min ≤ number) && decide (number < max)
  | wrapped _ start stop => decide (start ≤ number) || decide (number ≤ stop)

/-- Whether a field satisfies the condition; one without a number satisfies none. -/
def holds (condition : Condition) (number : Option Binary64) : Bool :=
  number.any condition.admits

/-- The condition in the language of the displayed query. -/
def sql (condition : Condition) : String :=
  let name := condition.column.qualifiedName
  match condition with
  | notNull _ => name ++ " IS NOT NULL"
  | between _ min max .included => name ++ " BETWEEN " ++ min.plain ++ " AND " ++ max.plain
  | between _ min max .excluded =>
    name ++ " >= " ++ min.plain ++ " AND " ++ name ++ " < " ++ max.plain
  | wrapped _ start stop =>
    "(" ++ name ++ " >= " ++ start.plain ++ " OR " ++ name ++ " <= " ++ stop.plain ++ ")"

end Condition

end ArgoQuery
