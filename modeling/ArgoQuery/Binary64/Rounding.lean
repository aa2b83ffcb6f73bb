import ArgoQuery.Binary64

/-!
# Rounding to the nearest number

One function rounds an exact ratio to the nearest binary64 number, ties to the even fraction, and
all arithmetic is an exact calculation on units followed by that rounding. Reading decimals and
narrowing to single precision round in the same way.
-/

namespace ArgoQuery

/-- The whole number nearest to a ratio; a tie goes to the even neighbour. -/
def roundRatio (numerator denominator : Nat) : Nat :=
  let quotient := numerator / denominator
  let doubled := 2 * (numerator % denominator)
  if doubled < denominator then quotient
  else if denominator < doubled then quotient + 1
  else quotient + quotient % 2

namespace Binary64

/-- The magnitude nearest to a non-negative ratio. With `shift` low bits dropped the quotient has
53 bits, and since magnitudes count numbers upwards the exponent and the fraction simply add up; a
carry out of the fraction lands in the exponent. Whatever passes the largest finite number is
infinite. -/
def nearestMagnitude (numerator denominator : Nat) : Nat :=
  let scaled := numerator * unitsPerOne
  let shift := (scaled / denominator).log2 - 52
  min infiniteMagnitude (shift * Nat.pow 2 52 + roundRatio scaled (denominator * Nat.pow 2 shift))

/-- The number nearest to a signed ratio. A ratio that rounds to zero keeps its sign. -/
def ofRatio (negative : Bool) (numerator denominator : Nat) : Binary64 :=
  ofMagnitude negative (nearestMagnitude numerator denominator)

/-- The number nearest to a whole number. -/
def ofInt (value : Int) : Binary64 := ofRatio (decide (value < 0)) value.natAbs 1

/-- The number nearest to a whole one. -/
def ofNat (value : Nat) : Binary64 := ofRatio false value 1

/-- The number nearest to `digits * 10 ^ exponent`. Values far outside the range are settled by
their size alone, so an exponent of any length costs nothing. -/
def ofDecimal (negative : Bool) (digits : Nat) (exponent : Int) : Binary64 :=
  if digits = 0 then ofMagnitude negative 0
  else if (310 : Int) < digits.log2 * 3 / 10 + exponent then
    ofMagnitude negative infiniteMagnitude
  else if digits.log2 / 3 + 1 + exponent < (-330 : Int) then ofMagnitude negative 0
  else if 0 ≤ exponent then ofRatio negative (digits * Nat.pow 10 exponent.toNat) 1
  else ofRatio negative digits (Nat.pow 10 (-exponent).toNat)

instance (value : Nat) : OfNat Binary64 value := ⟨ofNat value⟩

instance : OfScientific Binary64 where
  ofScientific digits below places :=
    ofDecimal false digits (if below then -(places : Int) else places)

/-- The sum, exact and then rounded. Opposite infinities have no sum, and a sum of exactly zero is
negative only when both operands are. -/
def add (x y : Binary64) : Binary64 :=
  if x.isNaN || y.isNaN then nan
  else if x.isInfinite then
    if y.isInfinite && x.isNegative != y.isNegative then nan else x
  else if y.isInfinite then y
  else
    let sum := x.units + y.units
    if sum = 0 then ofMagnitude (x.isNegative && y.isNegative) 0
    else ofRatio (decide (sum < 0)) sum.natAbs unitsPerOne

instance : Add Binary64 := ⟨add⟩

/-- The difference is the sum with the opposite. -/
def subtract (x y : Binary64) : Binary64 := x + -y

instance : Sub Binary64 := ⟨subtract⟩

/-- The product, exact and then rounded. Zero times infinity has no value. -/
def multiply (x y : Binary64) : Binary64 :=
  let negative := x.isNegative != y.isNegative
  if x.isNaN || y.isNaN then nan
  else if x.isInfinite || y.isInfinite then
    if x.isZero || y.isZero then nan else ofMagnitude negative infiniteMagnitude
  else ofRatio negative (x.units.natAbs * y.units.natAbs) (unitsPerOne * unitsPerOne)

instance : Mul Binary64 := ⟨multiply⟩

/-- The quotient, exact and then rounded. Zero by zero and infinity by infinity have no value. -/
def divide (x y : Binary64) : Binary64 :=
  let negative := x.isNegative != y.isNegative
  if x.isNaN || y.isNaN then nan
  else if x.isInfinite then
    if y.isInfinite then nan else ofMagnitude negative infiniteMagnitude
  else if y.isInfinite then ofMagnitude negative 0
  else if y.isZero then
    if x.isZero then nan else ofMagnitude negative infiniteMagnitude
  else ofRatio negative x.units.natAbs y.units.natAbs

instance : Div Binary64 := ⟨divide⟩

/-- The whole part as a signed 64-bit integer. Values outside its range take the nearest end, and
NaN becomes zero. -/
def toInt64 (x : Binary64) : Int :=
  if x.isNaN then 0
  else if x.isInfinite then if x.isNegative then least else greatest
  else
    max least (min greatest (x.units.tdiv unitsPerOne))
where
  least : Int := Int64.minValue.toInt
  greatest : Int := Int64.maxValue.toInt

/-- The number rounded to single precision and widened again: 24 significant bits, a smallest
positive value of `2 ^ -149`, and infinity from `2 ^ 128` on. -/
def single (x : Binary64) : Binary64 :=
  if !x.isFinite then x
  else
    let steps := unitsOfMagnitude x.magnitude
    let shift := (steps / Nat.pow 2 925).log2 - 23
    let rounded := roundRatio steps (Nat.pow 2 925 * Nat.pow 2 shift) * Nat.pow 2 shift
    if Nat.pow 2 277 ≤ rounded then ofMagnitude x.isNegative infiniteMagnitude
    else ofRatio x.isNegative rounded (Nat.pow 2 149)

end Binary64

end ArgoQuery
