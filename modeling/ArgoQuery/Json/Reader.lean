import ArgoQuery.Json
import ArgoQuery.Json.Tree
import ArgoQuery.WordSize

/-!
# Reading JSON values

A whole number that fits 64 bits is an integer; every other number is fractional. Digits are
collected into a whole number of at most 64 bits, which is rounded once and scaled by a rounded
power of ten, so a fractional number may end up beside the nearest one. A number too large to be
finite is refused, as is a value nested deeper than 127 levels. The fields of an object are sorted
by name, and of repeated fields the last one counts.
-/

namespace ArgoQuery

namespace NumberLiteral

/-- The largest whole number that digits are collected into. -/
def maxSignificand : Nat := Nat.pow 2 64 - 1

/-- Digits collected in front of the number so far, as long as they fit, and how many were left
over. -/
def collect : (significand : Nat) → List Char → Nat × Nat
  | significand, [] => (significand, 0)
  | significand, digit :: rest =>
    let next := 10 * significand + (digit.toNat - '0'.toNat)
    if next ≤ maxSignificand then collect next rest else (significand, rest.length + 1)

/-- The power of ten as a number. -/
def power (exponent : Nat) : Binary64 := Binary64.ofDecimal false 1 exponent

/-- A number scaled by a power of ten, unless it grows beyond all finite numbers. Powers beyond the
largest one are applied in steps; after two of them nothing is left of the number. -/
def scale? (number : Binary64) (exponent : Int) : Option Binary64 :=
  if 0 ≤ exponent then
    if number.isZero then some number
    else if exponent ≤ 308 then
      let scaled := number * power exponent.toNat
      if scaled.isInfinite then none else some scaled
    else none
  else if -308 ≤ exponent then some (number / power (-exponent).toNat)
  else if -616 ≤ exponent then some (number / power 308 / power (-exponent - 308).toNat)
  else some .zero

/-- The value of a number that is not kept as an integer. -/
def toFloat? (literal : NumberLiteral) : Option Binary64 := do
  let (wholePart, skipped) := collect 0 literal.whole
  let (significand, left) := collect wholePart literal.fraction
  let used := literal.fraction.length - left
  let exponent := (skipped : Int) - used + literal.exponent.getD 0
  let size ← scale? (Binary64.ofNat significand) exponent
  return if literal.negative then -size else size

/-- The value of a number. Negative zero and whole numbers that do not fit 64 bits, signed if they
have a sign, are fractional. -/
def toJson? (literal : NumberLiteral) : Option Json :=
  let size := Binary64.valueOfDigits literal.whole
  let value : Int := if literal.negative then -size else size
  if literal.isWhole && fitsWord 64 value && !(literal.negative && size == 0) then some (.int value)
  else literal.toFloat?.map Json.float

end NumberLiteral

namespace Json

/-- The fields, sorted by name, with one more; it takes the place of a field of the same name. -/
def putField (name : String) (value : Json) : List (String × Json) → List (String × Json)
  | [] => [(name, value)]
  | (other, old) :: rest =>
    if name = other then (name, value) :: rest
    else if name < other then (name, value) :: (other, old) :: rest
    else (other, old) :: putField name value rest

/-- The object with the given fields, sorted by name, the last of equal names counting. -/
def sortedObject (fields : List (String × Json)) : Json :=
  object (fields.foldl (fun sorted (name, value) => putField name value sorted) [])

/-- How deep a value may be nested. -/
def maxDepth : Nat := 127

end Json

namespace JsonTree

mutual

/-- The value of a tree that is nested no deeper than given, its objects made by `arrange`. -/
def evaluate? (arrange : List (String × Json) → Json) : (depth : Nat) → JsonTree → Option Json
  | _, null => some .null
  | _, bool flag => some (.bool flag)
  | _, number literal => literal.toJson?
  | _, text value => value.map .text
  | 0, array _ => none
  | 0, object _ => none
  | depth + 1, array items => (evaluateItems? arrange depth items).map .array
  | depth + 1, object fields => (evaluateFields? arrange depth fields).map arrange

/-- Evaluates items one after the other. -/
def evaluateItems? (arrange : List (String × Json) → Json) (depth : Nat) :
    List JsonTree → Option (List Json)
  | [] => some []
  | item :: items => do
    return (← item.evaluate? arrange depth) :: (← evaluateItems? arrange depth items)

/-- Evaluates fields one after the other. -/
def evaluateFields? (arrange : List (String × Json) → Json) (depth : Nat) :
    List (Option String × JsonTree) → Option (List (String × Json))
  | [] => some []
  | field :: fields => do
    return (← evaluateField? arrange depth field) :: (← evaluateFields? arrange depth fields)

/-- Evaluates a field whose name is a text of characters. -/
def evaluateField? (arrange : List (String × Json) → Json) (depth : Nat) :
    Option String × JsonTree → Option (String × Json)
  | (name, value) => do return (← name, ← value.evaluate? arrange depth)

end

end JsonTree

/-- Reads a JSON text. -/
def Json.ofText? (source : String) : Option Json :=
  (JsonTree.ofText? source).bind (JsonTree.evaluate? Json.sortedObject Json.maxDepth)

end ArgoQuery
