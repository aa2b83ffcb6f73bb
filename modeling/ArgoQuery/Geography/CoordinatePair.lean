import ArgoQuery.Binary64.Text
import ArgoQuery.Text.Blank
import ArgoQuery.Text.DecimalDigit

/-!
# Coordinates written in a text

A coordinate pair is a latitude followed by a longitude, each an unsigned number with the letter of
its hemisphere, such as `15.5°S, 70°W`. Between the parts there may be white space, one degree sign
after each number and one comma after the first letter. Every part is followed by something it
cannot be mistaken for, so reading each as far as it goes finds a pair whenever there is one.
-/

namespace ArgoQuery.Geography

open Text (isBlank isDecimalDigit)

/-- A coordinate pair as it is written. -/
structure CoordinatePair where
  latitude : List Char
  south : Bool
  longitude : List Char
  west : Bool
  /-- The text from the first digit to the second letter. -/
  matched : List Char
deriving DecidableEq, Repr

/-- Splits a number off: digits of any script, and a point with further digits if there are any. -/
def splitNumber? (text : List Char) : Option (List Char × List Char) :=
  let whole := text.takeWhile isDecimalDigit
  let rest := text.dropWhile isDecimalDigit
  if whole.isEmpty then none
  else match rest with
    | '.' :: after =>
      let fraction := after.takeWhile isDecimalDigit
      if fraction.isEmpty then some (whole, rest)
      else some (whole ++ '.' :: fraction, after.dropWhile isDecimalDigit)
    | _ => some (whole, rest)

/-- What follows the white space at the start of a text. -/
def skipBlanks (text : List Char) : List Char := text.dropWhile isBlank

/-- Passes over white space around at most one given character. -/
def skipAround (sign : Char) (text : List Char) : List Char :=
  match skipBlanks text with
  | c :: rest => if c = sign then skipBlanks rest else c :: rest
  | [] => []

/-- Whether a letter names a hemisphere of latitude. The long s is a letter case of s, but it does
not name the southern one. -/
def isLatitudeLetter (c : Char) : Bool := c ∈ ['N', 'n', 'S', 's', 'ſ']

/-- Whether a character is the letter of an eastern or western longitude. -/
def isLongitudeLetter (c : Char) : Bool := c ∈ ['E', 'e', 'W', 'w']

/-- A number with its hemisphere letter, and the text after it. -/
def splitCoordinate? (isLetter : Char → Bool) (text : List Char) :
    Option (List Char × Char × List Char) := do
  let (number, rest) ← splitNumber? text
  match skipAround '°' rest with
  | letter :: after => if isLetter letter then some (number, letter, after) else none
  | [] => none

/-- The coordinate pair that the text starts with. -/
def CoordinatePair.atStart? (text : List Char) : Option CoordinatePair := do
  let (latitude, vertical, rest) ← splitCoordinate? isLatitudeLetter text
  let (longitude, horizontal, after) ← splitCoordinate? isLongitudeLetter (skipAround ',' rest)
  return {
    latitude
    south := vertical == 'S' || vertical == 's'
    longitude
    west := horizontal == 'W' || horizontal == 'w'
    matched := text.take (text.length - after.length) }

/-- The first coordinate pair of a text. -/
def CoordinatePair.firstIn? : List Char → Option CoordinatePair
  | [] => none
  | c :: rest => (CoordinatePair.atStart? (c :: rest)).or (CoordinatePair.firstIn? rest)

/-- The latitude and the longitude in degrees, negative to the south and to the west. A number with
digits that are not ASCII has no value. -/
def CoordinatePair.degrees? (pair : CoordinatePair) : Option (Binary64 × Binary64) := do
  let lat ← Binary64.readDecimal? false pair.latitude
  let lon ← Binary64.readDecimal? false pair.longitude
  return (if pair.south then -lat else lat, if pair.west then -lon else lon)

end ArgoQuery.Geography
