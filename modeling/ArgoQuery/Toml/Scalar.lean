import ArgoQuery.Binary64.Text
import ArgoQuery.Calendar.Date
import ArgoQuery.Json
import ArgoQuery.Json.Tree
import ArgoQuery.WordSize

/-!
# Numbers, flags and dates in TOML

Digits may be grouped by underscores that stand between them. A number with a point or an exponent
is fractional, and it is refused if it is too large to be finite. Dates and times are checked and
kept in one form: marks in capitals, and of the fraction of a second nine digits without the zeros
at their end.
-/

namespace ArgoQuery.Toml

/-- The digits without the underscores between them. -/
def ungroup? (isDigit : Char → Bool) : List Char → Option (List Char)
  | [] => none
  | [digit] => if isDigit digit then some [digit] else none
  | digit :: '_' :: rest => if isDigit digit then (ungroup? isDigit rest).map (digit :: ·) else none
  | digit :: rest => if isDigit digit then (ungroup? isDigit rest).map (digit :: ·) else none

/-- The digits of a whole number: it starts with a zero only if that is all of it. -/
def wholeDigits? (text : List Char) : Option (List Char) := do
  let digits ← ungroup? Char.isDigit text
  match digits with
  | '0' :: _ :: _ => none
  | _ => some digits

/-- The value of digits in some base. -/
def valueInBase? (base : Nat) (text : List Char) : Option Nat := do
  let isDigit (c : Char) : Bool := (QuotedPart.hexValue? c).any (· < base)
  let digits ← ungroup? isDigit text
  return digits.foldl (fun value digit => base * value + (QuotedPart.hexValue? digit).getD 0) 0

/-- A whole number: decimal with an optional sign, or of another base without one. Numbers of more
than 128 bits are refused. -/
def integer? (text : List Char) : Option Int := do
  let value ← match text with
    | '0' :: 'x' :: digits => (valueInBase? 16 digits).map Int.ofNat
    | '0' :: 'o' :: digits => (valueInBase? 8 digits).map Int.ofNat
    | '0' :: 'b' :: digits => (valueInBase? 2 digits).map Int.ofNat
    | _ =>
      let (negative, unsigned) := Binary64.splitSign text
      (wholeDigits? unsigned).map fun digits =>
        let size : Int := Binary64.valueOfDigits digits
        if negative then -size else size
  if fitsWord 128 value then some value else none

/-- Whether a character is a digit or separates digits. -/
def isGroupedDigit (c : Char) : Bool := c.isDigit || c == '_'

/-- The exponent of a fractional number: nothing, or a mark and a number with an optional sign. -/
def exponent? : List Char → Option Int
  | [] => some 0
  | mark :: rest => do
    let (negative, unsigned) := Binary64.splitSign rest
    let size : Int := Binary64.valueOfDigits (← ungroup? Char.isDigit unsigned)
    if mark = 'e' ∨ mark = 'E' then some (if negative then -size else size) else none

/-- An unsigned fractional number. -/
def unsignedFloat? (negative : Bool) (text : List Char) : Option Binary64 := do
  let whole ← wholeDigits? (text.takeWhile isGroupedDigit)
  let (fraction, rest) ← match text.dropWhile isGroupedDigit with
    | '.' :: after =>
      (ungroup? Char.isDigit (after.takeWhile isGroupedDigit)).map
        (·, after.dropWhile isGroupedDigit)
    | rest => if rest.isEmpty then none else some ([], rest)
  let exponent ← exponent? rest
  let number := Binary64.ofDecimal negative (Binary64.valueOfDigits (whole ++ fraction))
    (exponent - fraction.length)
  if number.isInfinite then none else some number

/-- A fractional number, infinity or NaN, with an optional sign. -/
def float? (text : List Char) : Option Binary64 :=
  let (negative, unsigned) := Binary64.splitSign text
  if unsigned = "inf".toList then some (.ofMagnitude negative Binary64.infiniteMagnitude)
  else if unsigned = "nan".toList then some (.ofMagnitude negative Binary64.nan.magnitude)
  else unsignedFloat? negative unsigned

/-- The value of a run of digits of the given length, and what follows it. -/
def splitDigits? (count : Nat) (text : List Char) : Option (Nat × List Char) :=
  let digits := text.take count
  if digits.length = count ∧ digits.all Char.isDigit then
    some (Binary64.valueOfDigits digits, text.drop count)
  else none

/-- What follows a mark that the text has to start with. -/
def splitMark? (mark : Char) : List Char → Option (List Char)
  | c :: rest => if c = mark then some rest else none
  | [] => none

/-- What follows a date that exists. -/
def afterDate? (text : List Char) : Option (List Char) := do
  let (year, rest) ← splitDigits? 4 text
  let (month, rest) ← splitDigits? 2 (← splitMark? '-' rest)
  let (day, rest) ← splitDigits? 2 (← splitMark? '-' rest)
  if Calendar.Date.IsValid ⟨year, month, day⟩ then some rest else none

/-- What follows the hours and minutes of a day or of an offset. -/
def afterMinutes? (text : List Char) : Option (List Char) := do
  let (hour, rest) ← splitDigits? 2 text
  let (minute, rest) ← splitDigits? 2 (← splitMark? ':' rest)
  if hour ≤ 23 ∧ minute ≤ 59 then some rest else none

/-- The digits of a fraction of a second that are kept; at least one is. -/
def keptFraction (digits : List Char) : List Char :=
  match (digits.take 9).reverse.dropWhile (· == '0') with
  | [] => ['0']
  | kept => kept.reverse

/-- The fraction of a second, if there is one, and what follows it. -/
def splitFraction? : List Char → Option (List Char × List Char)
  | '.' :: rest =>
    let digits := rest.takeWhile Char.isDigit
    if digits.isEmpty then none
    else some ('.' :: keptFraction digits, rest.dropWhile Char.isDigit)
  | rest => some ([], rest)

/-- A time of day and what follows it; the seconds may be left out. -/
def splitTime? (text : List Char) : Option (List Char × List Char) := do
  match ← afterMinutes? text with
  | ':' :: rest =>
    let (second, after) ← splitDigits? 2 rest
    let (fraction, after) ← splitFraction? after
    if second ≤ 60 then some (text.take 8 ++ fraction, after) else none
  | rest => some (text.take 5, rest)

/-- An offset from universal time, or nothing. An offset of zero is a positive one. -/
def offset? : List Char → Option (List Char)
  | [] => some []
  | [mark] => if mark = 'Z' ∨ mark = 'z' then some ['Z'] else none
  | sign :: rest =>
    if afterMinutes? rest != some [] then none
    else if sign = '+' ∨ rest = "00:00".toList ∧ sign = '-' then some ('+' :: rest)
    else if sign = '-' then some ('-' :: rest)
    else none

/-- A date, a time, or a date with a time, in the form in which it is kept. -/
def moment? (text : List Char) : Option (List Char) :=
  match afterDate? text with
  | some [] => some text
  | some (mark :: timeAndOffset) => do
    let (time, rest) ← splitTime? timeAndOffset
    let offset ← offset? rest
    if mark = 'T' ∨ mark = 't' ∨ mark = ' ' then some (text.take 10 ++ 'T' :: time ++ offset)
    else none
  | none => do
    let (time, rest) ← splitTime? text
    if rest.isEmpty then some time else none

/-- The name of the field that holds a date or a time. -/
def momentField : String := "$__toml_private_datetime"

/-- The value of an unquoted scalar. A date or a time becomes an object. -/
def scalar? (text : List Char) : Option Json :=
  if text = "true".toList then some (.bool true)
  else if text = "false".toList then some (.bool false)
  else ((integer? text).map Json.int).or <| ((float? text).map Json.float).or <|
    (moment? text).map fun moment => .object [(momentField, .text (String.ofList moment))]

/-- Whether a character may stand in a number or another bare scalar. -/
def isScalarCharacter (c : Char) : Bool := c.isAlphanum || "+-._:".toList.contains c

/-- An unquoted scalar and what follows it. A blank belongs to it between a date and a time. -/
def splitScalar? (text : List Char) : Option (Json × List Char) := do
  let token := text.takeWhile isScalarCharacter
  let rest := text.dropWhile isScalarCharacter
  match afterDate? token, rest with
  | some [], ' ' :: digit :: more =>
    if digit.isDigit then
      let time := (digit :: more).takeWhile isScalarCharacter
      return (← scalar? (token ++ ' ' :: time), (digit :: more).dropWhile isScalarCharacter)
    else return (← scalar? token, rest)
  | _, _ => return (← scalar? token, rest)

end ArgoQuery.Toml
