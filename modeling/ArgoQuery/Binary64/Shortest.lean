import ArgoQuery.Binary64

/-!
# The shortest decimal of a number

A decimal reads back as a number when it lies in the number's rounding interval: between the
midpoints to its two neighbours, the midpoints included when its own fraction is even. The coarsest
decimal grid with a point in that interval gives the fewest digits, and only the two grid points
around the number need to be tried. All comparisons are exact, on whole numbers.
-/

namespace ArgoQuery

/-- A non-negative decimal, `digits * 10 ^ exponent`. -/
structure Decimal where
  digits : Nat
  exponent : Int
deriving DecidableEq, Repr

/-- Which of two equally near decimals is written. -/
inductive Tie where
  | toEven
  | upward
deriving DecidableEq, Repr

namespace Binary64

/-- A positive finite number between the ends of its rounding interval, all three counted in
halves of a unit. -/
structure RoundingInterval where
  low : Nat
  value : Nat
  high : Nat
  closed : Bool
deriving DecidableEq, Repr

/-- What rounds to a magnitude, in half units: everything up to the middles to its neighbours, the
middles included if the magnitude is even. -/
def RoundingInterval.ofMagnitude (magnitude : Nat) : RoundingInterval :=
  let own := unitsOfMagnitude magnitude
  { low := unitsOfMagnitude (magnitude - 1) + own
    value := 2 * own
    high := own + unitsOfMagnitude (magnitude + 1)
    closed := magnitude % 2 = 0 }

/-- Whether a point, given in the same measure as the interval, rounds to its number. -/
def RoundingInterval.admits (interval : RoundingInterval) (point : Nat) : Bool :=
  if interval.closed then decide (interval.low ≤ point ∧ point ≤ interval.high)
  else decide (interval.low < point ∧ point < interval.high)

/-- The interval with all its measures multiplied. -/
def RoundingInterval.scale (interval : RoundingInterval) (factor : Nat) : RoundingInterval :=
  { interval with
    low := interval.low * factor
    value := interval.value * factor
    high := interval.high * factor }

/-- The point of the grid `10 ^ exponent` that lies in the interval and is nearest to its number:
one of the two around the number, or none. -/
def RoundingInterval.gridPoint (interval : RoundingInterval) (tie : Tie) (exponent : Int) :
    Option Nat :=
  let measured := interval.scale (Nat.pow 10 (-exponent).toNat)
  let step := Nat.pow 2 1075 * Nat.pow 10 exponent.toNat
  let below := measured.value / step
  let doubled := 2 * (measured.value % step)
  match measured.admits (below * step), measured.admits ((below + 1) * step) with
  | false, false => none
  | true, false => some below
  | false, true => some (below + 1)
  | true, true =>
    if doubled < step then some below
    else if step < doubled then some (below + 1)
    else match tie with
      | .toEven => some (below + below % 2)
      | .upward => some (below + 1)

/-- Tries ever finer grids, from `10 ^ exponent` down. Every number is a decimal of 1074 places, so
its exact digits are at hand should the given number of grids not suffice. -/
def RoundingInterval.coarsest (interval : RoundingInterval) (tie : Tie) :
    (grids : Nat) → (exponent : Int) → Decimal
  | 0, _ => ⟨interval.value / 2 * Nat.pow 5 1074, -1074⟩
  | grids + 1, exponent =>
    match interval.gridPoint tie exponent with
    | some digits => ⟨digits, exponent⟩
    | none => interval.coarsest tie grids (exponent - 1)

/-- The shortest decimal that reads back as the given positive finite magnitude, and among those
the nearest. The search starts above the leading digit, and seventeen digits always suffice. -/
def shortest (tie : Tie) (magnitude : Nat) : Decimal :=
  let interval := RoundingInterval.ofMagnitude magnitude
  let leading : Int := ((interval.value.log2 : Int) - 1074) * 30103 / 100000 + 2
  interval.coarsest tie 24 leading

end Binary64

end ArgoQuery
