/-!
# Whole numbers that fit a word

How many bits a whole number takes up decides whether it is kept as an integer, read as a fractional
number or refused. A word holds it with a sign or without one.
-/

namespace ArgoQuery

/-- Whether a number fits a word of the given count of bits, one of which is its sign. -/
def fitsSigned (bits : Nat) (value : Int) : Bool :=
  decide (-(Nat.pow 2 (bits - 1) : Int) ≤ value) && decide (value < (Nat.pow 2 (bits - 1) : Int))

/-- Whether a number fits a word of the given count of bits without a sign. -/
def fitsUnsigned (bits : Nat) (value : Int) : Bool :=
  decide (0 ≤ value) && decide (value < (Nat.pow 2 bits : Int))

/-- Whether a number fits a word in one of the two ways. -/
def fitsWord (bits : Nat) (value : Int) : Bool := fitsSigned bits value || fitsUnsigned bits value

end ArgoQuery
