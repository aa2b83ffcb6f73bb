/-!
# Binary64 numbers

A number is kept as its 64 bits, so the two zeros and the two signs of NaN stay apart. Below the
sign bit, the remaining 63 bits count the numbers of one sign upwards from zero: the *magnitude*.
Every comparison is a comparison of signed magnitudes, and the exact value of a finite number is a
whole number of units of `2 ^ -1074`, the smallest positive number. Rounding and arithmetic are in
`ArgoQuery.Binary64.Rounding`, text forms in the modules beside it.
-/

namespace ArgoQuery

/-- An IEEE 754 binary64 number. Equality is equality of bits. -/
structure Binary64 where
  bits : UInt64
deriving DecidableEq, Hashable, Repr

namespace Binary64

/-- The bits below the sign: the position of the number among those of its sign. -/
def magnitude (x : Binary64) : Nat := x.bits.toNat % Nat.pow 2 63

/-- Whether the sign bit is set; true of negative zero and of a NaN that carries a sign. -/
def isNegative (x : Binary64) : Bool := decide (Nat.pow 2 63 ≤ x.bits.toNat)

/-- The number of that sign whose magnitude is given; magnitudes lie below `2 ^ 63`. -/
def ofMagnitude (negative : Bool) (magnitude : Nat) : Binary64 :=
  ⟨UInt64.ofNat (magnitude % Nat.pow 2 63 + if negative then Nat.pow 2 63 else 0)⟩

/-- The magnitude of infinity: an exponent field of ones above an empty fraction. -/
def infiniteMagnitude : Nat := 2047 * Nat.pow 2 52

/-- Magnitudes above infinity stand for no number. -/
def isNaN (x : Binary64) : Bool := decide (infiniteMagnitude < x.magnitude)

/-- Whether a number is one of the two infinities. -/
def isInfinite (x : Binary64) : Bool := decide (x.magnitude = infiniteMagnitude)

/-- Whether a number is neither infinite nor NaN. -/
def isFinite (x : Binary64) : Bool := decide (x.magnitude < infiniteMagnitude)

/-- Whether a number is one of the two zeros. -/
def isZero (x : Binary64) : Bool := decide (x.magnitude = 0)

/-- The NaN that arithmetic gives. -/
def nan : Binary64 := ofMagnitude false (infiniteMagnitude + Nat.pow 2 51)

/-- The zero without a sign. -/
def zero : Binary64 := ofMagnitude false 0

/-- The signed magnitude. Both zeros have rank zero, and a larger number has a larger rank. -/
def rank (x : Binary64) : Int := if x.isNegative then -(x.magnitude : Int) else x.magnitude

/-- A NaN is neither below nor above anything. -/
instance : LT Binary64 :=
  ⟨fun x y => x.isNaN = false ∧ y.isNaN = false ∧ x.rank < y.rank⟩

instance : LE Binary64 :=
  ⟨fun x y => x.isNaN = false ∧ y.isNaN = false ∧ x.rank ≤ y.rank⟩

instance (x y : Binary64) : Decidable (x < y) :=
  inferInstanceAs (Decidable (x.isNaN = false ∧ y.isNaN = false ∧ x.rank < y.rank))

instance (x y : Binary64) : Decidable (x ≤ y) :=
  inferInstanceAs (Decidable (x.isNaN = false ∧ y.isNaN = false ∧ x.rank ≤ y.rank))

/-- A number is less than another if neither is NaN and its rank is lower. -/
theorem lt_iff {x y : Binary64} : x < y ↔ x.isNaN = false ∧ y.isNaN = false ∧ x.rank < y.rank :=
  Iff.rfl

/-- A number is at most another if neither is NaN and its rank is no higher. -/
theorem le_iff {x y : Binary64} : x ≤ y ↔ x.isNaN = false ∧ y.isNaN = false ∧ x.rank ≤ y.rank :=
  Iff.rfl

/-- Whether two numbers are equal as numbers: the zeros are, a NaN never is. -/
def Same (x y : Binary64) : Prop := x ≤ y ∧ y ≤ x

instance (x y : Binary64) : Decidable (x.Same y) := inferInstanceAs (Decidable (_ ∧ _))

/-- Whether a number lies within bounds, which count as inside; NaN does not. -/
def isWithin (x min max : Binary64) : Bool := decide (min ≤ x) && decide (x ≤ max)

/-- The position in the total order of all bit patterns: NaNs with a sign, negative numbers,
negative zero, zero, positive numbers, NaNs without one. -/
def totalRank (x : Binary64) : Int :=
  if x.isNegative then -(x.magnitude : Int) - 1 else x.magnitude

/-- The total order of all bit patterns. -/
def compareTotal (x y : Binary64) : Ordering := compare x.totalRank y.totalRank

/-- How many units of `2 ^ -1074` a finite magnitude stands for: a fraction alone below the
smallest normal number, and a fraction with its leading bit at the given exponent above it. -/
def unitsOfMagnitude (magnitude : Nat) : Nat :=
  let exponent := magnitude / Nat.pow 2 52
  let fraction := magnitude % Nat.pow 2 52
  if exponent = 0 then fraction else (Nat.pow 2 52 + fraction) * Nat.pow 2 (exponent - 1)

/-- One as a number of units. -/
def unitsPerOne : Nat := Nat.pow 2 1074

/-- The exact value of a finite number, in units of `2 ^ -1074`. -/
def units (x : Binary64) : Int :=
  if x.isNegative then -(unitsOfMagnitude x.magnitude : Int) else unitsOfMagnitude x.magnitude

/-- Whether a number is finite and has no fraction. -/
def isWhole (x : Binary64) : Bool :=
  x.isFinite && decide (unitsOfMagnitude x.magnitude % unitsPerOne = 0)

/-- The number with the other sign. -/
def negate (x : Binary64) : Binary64 := ofMagnitude (!x.isNegative) x.magnitude

/-- The number without its sign. -/
def absolute (x : Binary64) : Binary64 := ofMagnitude false x.magnitude

instance : Neg Binary64 := ⟨negate⟩

/-- The smaller of two numbers. A NaN yields to the other operand, and of two zeros the second is
taken. -/
def lesser (x y : Binary64) : Binary64 :=
  if x.isNaN then y else if y.isNaN then x else if x < y then x else y

/-- The larger of two numbers, with the same treatment of NaN and of the zeros. -/
def greater (x y : Binary64) : Binary64 :=
  if x.isNaN then y else if y.isNaN then x else if y < x then x else y

end Binary64

end ArgoQuery
