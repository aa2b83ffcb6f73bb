import ArgoQuery.Calendar.JulianRange
import ArgoQuery.Text.DecimalDigit
import ArgoQuery.Text.LetterCase
import ArgoQuery.Text.WordCharacter

/-!
# Dates mentioned in a text

A text can mention a year of this century and a month by its English name or abbreviation. Only the
first year-like word is looked at, and a month counts only as a whole word of ASCII letters.
-/

namespace ArgoQuery.Calendar

open Text (isDecimalDigit isWordCharacter)

/-- The year and the month that a text mentions. -/
structure DateHint where
  year : Option Int := none
  month : Option Nat := none
deriving DecidableEq, Repr

namespace DateHint

/-- Whether a hint says nothing. -/
def isEmpty (hint : DateHint) : Bool := hint.year.isNone && hint.month.isNone

/-- The days of the month of the year, or of the whole year. A month alone names no days. -/
def range (hint : DateHint) : Except YearOverflow (Option JulianRange) :=
  match hint.year, hint.month with
  | some year, some month => JulianRange.ofMonth year month
  | some year, none => JulianRange.ofYear year
  | none, _ => .ok none

/-- The range of a hint, if its evaluation comes to one. -/
def range? (hint : DateHint) : Option JulianRange := hint.range.toOption.join

/-- The names of the months, each with its number. Where a text holds several, the first of this
list decides: full names come before abbreviations. -/
def monthNames : List (String × Nat) :=
  [("january", 1), ("february", 2), ("march", 3), ("april", 4), ("may", 5), ("june", 6),
    ("july", 7), ("august", 8), ("september", 9), ("october", 10), ("november", 11),
    ("december", 12), ("jan", 1), ("feb", 2), ("mar", 3), ("apr", 4), ("jun", 6), ("jul", 7),
    ("aug", 8), ("sept", 9), ("sep", 9), ("oct", 10), ("nov", 11), ("dec", 12)]

/-- The maximal runs of ASCII letters; `current` holds the letters of an unfinished one, last
first. -/
def letterWordsFrom (current : List Char) : List Char → List (List Char)
  | [] => if current.isEmpty then [] else [current.reverse]
  | c :: rest =>
    if c.isAlpha then letterWordsFrom (c :: current) rest
    else if current.isEmpty then letterWordsFrom [] rest
    else current.reverse :: letterWordsFrom [] rest

/-- The maximal runs of ASCII letters of a text. -/
def letterWords (text : List Char) : List (List Char) := letterWordsFrom [] text

/-- The month whose name is a word of the lowercase text. -/
def monthIn? (lowered : List Char) : Option Nat :=
  let words := letterWords lowered
  (monthNames.find? fun (name, _) => words.contains name.toList).map Prod.snd

/-- Whether a text does not go on with a word character. -/
def wordEnds : List Char → Bool
  | [] => true
  | c :: _ => !isWordCharacter c

/-- The last two digits of the first word that consists of 20 and two decimal digits of any script;
`inWord` tells whether the character before the text is part of a word. -/
def firstYearDigits? (inWord : Bool) : List Char → Option (Char × Char)
  | [] => none
  | c :: rest =>
    match inWord, c, rest with
    | false, '2', '0' :: tens :: ones :: after =>
      if isDecimalDigit tens && isDecimalDigit ones && wordEnds after then some (tens, ones)
      else firstYearDigits? true rest
    | _, _, _ => firstYearDigits? (isWordCharacter c) rest

/-- The year that the text mentions first. If its digits are not ASCII it is no year, and no later
one is tried. -/
def yearIn? (lowered : List Char) : Option Int :=
  (firstYearDigits? false lowered).bind fun (tens, ones) =>
    if tens.isDigit && ones.isDigit then
      some (2000 + 10 * (tens.toNat - '0'.toNat) + (ones.toNat - '0'.toNat) : Nat)
    else none

/-- What a text says about the date. -/
def ofText (text : String) : DateHint :=
  let lowered := (Text.lowercase text).toList
  { year := yearIn? lowered, month := monthIn? lowered }

/-- What a text says about the date, if anything. -/
def ofText? (text : String) : Option DateHint :=
  let hint := ofText text
  if hint.isEmpty then none else some hint

end DateHint

end ArgoQuery.Calendar
