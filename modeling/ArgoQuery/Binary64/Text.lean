import ArgoQuery.Binary64.Rounding
import ArgoQuery.Binary64.Shortest

/-!
# Writing and reading numbers

Two forms write the shortest decimal that reads back: the plain form, always positional, and the
interchange form, which keeps a fraction or an exponent so that a number is never mistaken for an
integer. A third form rounds to a fixed number of places. The reader accepts signed decimals with
an optional exponent and the names of infinity and NaN.
-/

namespace ArgoQuery

/-- The decimal digits of a natural number, most significant first. -/
def decimalDigits (value : Nat) : List Char := Nat.toDigits 10 value

/-- A whole number in decimal, after its sign if it is negative. -/
def signedDigits (value : Int) : List Char :=
  if value < 0 then '-' :: decimalDigits value.natAbs else decimalDigits value.natAbs

/-- An integer in decimal digits. -/
def decimalText (value : Int) : String := String.ofList (signedDigits value)

namespace Binary64

/-- The choices that distinguish the forms a number is written in. -/
structure Form where
  /-- Which of two equally near decimals is written. -/
  tie : Tie
  /-- Whether a number whose leading digit stands for this power of ten is written positionally. -/
  positional : Int → Bool
  /-- What follows a positional number without a fraction. -/
  wholeEnding : List Char

/-- Always positional; a whole number has no fraction. -/
def plainForm : Form := ⟨.upward, fun _ => true, []⟩

/-- Positional from `10 ^ -5` up to below `10 ^ 16`, and never without a fraction or an exponent. -/
def interchangeForm : Form := ⟨.toEven, fun leading => -5 ≤ leading && leading < 16, ['.', '0']⟩

/-- Digits with a decimal point, or with the zeros that their exponent asks for. -/
def Form.positionally (form : Form) (digits : List Char) (exponent : Int) : List Char :=
  if 0 ≤ exponent then digits ++ List.replicate exponent.toNat '0' ++ form.wholeEnding
  else
    let places := (-exponent).toNat
    if places < digits.length then
      digits.take (digits.length - places) ++ '.' :: digits.drop (digits.length - places)
    else '0' :: '.' :: List.replicate (places - digits.length) '0' ++ digits

/-- Digits with a point after the first and the power of ten of the first. -/
def scientifically (digits : List Char) (leading : Int) : List Char :=
  let mantissa := match digits with
    | first :: second :: rest => first :: '.' :: second :: rest
    | short => short
  mantissa ++ 'e' :: (if leading < 0 then '-' else '+') :: decimalDigits leading.natAbs

/-- The digits of a magnitude that is neither infinite nor NaN. -/
def Form.unsigned (form : Form) (magnitude : Nat) : List Char :=
  if magnitude = 0 then '0' :: form.wholeEnding
  else
    let decimal := shortest form.tie magnitude
    let digits := decimalDigits decimal.digits
    let leading := decimal.exponent + digits.length - 1
    if form.positional leading then form.positionally digits decimal.exponent
    else scientifically digits leading

/-- Gives NaN and the infinities their names and any other number its sign and digits. -/
def withSign (x : Binary64) (unsigned : Nat → List Char) : List Char :=
  if x.isNaN then "NaN".toList
  else
    let digits := if x.isInfinite then "inf".toList else unsigned x.magnitude
    if x.isNegative then '-' :: digits else digits

/-- The number in the plain form, such as `-5`, `0.1` or `1000000000000000000000`. -/
def plain (x : Binary64) : String := String.ofList (x.withSign plainForm.unsigned)

/-- The number in the interchange form, such as `-5.0`, `0.1` or `1e+21`. -/
def interchange (x : Binary64) : String := String.ofList (x.withSign interchangeForm.unsigned)

/-- The digits of a number rounded to the given places, a tie going to the even last digit. -/
def fixedDigits (places : Nat) (magnitude : Nat) : List Char :=
  let rounded := roundRatio (unitsOfMagnitude magnitude * Nat.pow 10 places) unitsPerOne
  let digits := decimalDigits rounded
  let padded := List.replicate (places + 1 - digits.length) '0' ++ digits
  if places = 0 then padded
  else padded.take (padded.length - places) ++ '.' :: padded.drop (padded.length - places)

/-- The number with exactly the given count of decimal places. -/
def fixed (places : Nat) (x : Binary64) : String :=
  String.ofList (x.withSign (fixedDigits places))

/-- The value of a run of decimal digits. -/
def valueOfDigits (digits : List Char) : Nat :=
  digits.foldl (fun value digit => 10 * value + (digit.toNat - '0'.toNat)) 0

/-- Splits a leading sign off; a plus sign says nothing. -/
def splitSign : List Char → Bool × List Char
  | '-' :: rest => (true, rest)
  | '+' :: rest => (false, rest)
  | text => (false, text)

/-- An exponent: absent at the end of the text, otherwise a marked, signed run of digits. -/
def readExponent? : List Char → Option Int
  | [] => some 0
  | mark :: rest =>
    if mark = 'e' ∨ mark = 'E' then
      let (negative, digits) := splitSign rest
      if digits.isEmpty || !digits.all Char.isDigit then none
      else some (if negative then -(valueOfDigits digits : Int) else valueOfDigits digits)
    else none

/-- A fraction: the digits after a point, or none. -/
def splitFraction : List Char → List Char × List Char
  | '.' :: rest => (rest.takeWhile Char.isDigit, rest.dropWhile Char.isDigit)
  | text => ([], text)

/-- An unsigned decimal with digits before or after its point and an optional exponent. -/
def readDecimal? (negative : Bool) (text : List Char) : Option Binary64 :=
  let whole := text.takeWhile Char.isDigit
  let (fraction, rest) := splitFraction (text.dropWhile Char.isDigit)
  if whole.isEmpty && fraction.isEmpty then none
  else
    (readExponent? rest).map fun exponent =>
      ofDecimal negative (valueOfDigits (whole ++ fraction)) (exponent - fraction.length)

/-- Reads a number that fills the whole text. The names of infinity and NaN are accepted in any
letter case, and a signed NaN keeps its sign. -/
def read? (text : String) : Option Binary64 :=
  let (negative, unsigned) := splitSign text.toList
  match unsigned.map Char.toLower with
  | ['i', 'n', 'f'] | ['i', 'n', 'f', 'i', 'n', 'i', 't', 'y'] =>
    some (ofMagnitude negative infiniteMagnitude)
  | ['n', 'a', 'n'] => some (ofMagnitude negative nan.magnitude)
  | _ => readDecimal? negative unsigned

end Binary64

end ArgoQuery
