import ArgoQuery.Binary64.Rounding

/-!
# Dates and Julian days

Dates of the proleptic Gregorian calendar with years from -9999 to 9999. A date's Julian day is
computed from its position in the 400-year cycle; `Date.next` walks the calendar one day at a time
and is the measure that the formula is judged by.
-/

namespace ArgoQuery.Calendar

/-- Every fourth year is a leap year, except for centuries that 400 does not divide. -/
def isLeapYear (year : Int) : Bool := year % 4 == 0 && (year % 100 != 0 || year % 400 == 0)

/-- The length of a month; no month outside 1 to 12 has any day. -/
def daysInMonth (year : Int) (month : Nat) : Nat :=
  match month with
  | 1 | 3 | 5 | 7 | 8 | 10 | 12 => 31
  | 4 | 6 | 9 | 11 => 30
  | 2 => if isLeapYear year then 29 else 28
  | _ => 0

/-- The length of a year. -/
def daysInYear (year : Int) : Nat := if isLeapYear year then 366 else 365

/-- A year, a month counted from one and a day of the month counted from one. -/
structure Date where
  year : Int
  month : Nat
  day : Nat
deriving DecidableEq, Repr

/-- Whether the month has that day. -/
def Date.IsValid (date : Date) : Prop :=
  1 ≤ date.day ∧ date.day ≤ daysInMonth date.year date.month

/-- Whether the year is one of those the calendar covers. -/
def Date.IsCovered (date : Date) : Prop := -9999 ≤ date.year ∧ date.year ≤ 9999

instance (date : Date) : Decidable date.IsValid := inferInstanceAs (Decidable (_ ∧ _))

instance (date : Date) : Decidable date.IsCovered := inferInstanceAs (Decidable (_ ∧ _))

/-- The month after a month, with its year. -/
def monthAfter (year : Int) (month : Nat) : Int × Nat :=
  if month = 12 then (year + 1, 1) else (year, month + 1)

/-- The day after a date. -/
def Date.next (date : Date) : Date :=
  if date.day < daysInMonth date.year date.month then { date with day := date.day + 1 }
  else
    let (year, month) := monthAfter date.year date.month
    ⟨year, month, 1⟩

/-- The day from which the Julian day of every other is counted. -/
def epoch : Date := ⟨1970, 1, 1⟩

/-- The Julian day of the epoch. -/
def epochJulianDay : Int := 2440588

/-- The Julian day of a date. Years are counted from March, so that a leap day is the last of its
year: `cycle` is the number of whole 400-year cycles of 146097 days, `yearOfCycle` and `dayOfYear`
the position within one. -/
def Date.julianDay (date : Date) : Int :=
  let year := if date.month ≤ 2 then date.year - 1 else date.year
  let cycle := year / 400
  let yearOfCycle := year % 400
  let monthFromMarch : Int := (date.month + 9) % 12
  let dayOfYear := (153 * monthFromMarch + 2) / 5 + date.day - 1
  let dayOfCycle := yearOfCycle * 365 + yearOfCycle / 4 - yearOfCycle / 100 + dayOfYear
  cycle * 146097 + dayOfCycle - 719468 + epochJulianDay

/-- The Julian day as a number, for dates that exist in the covered years. -/
def julianDay? (year : Int) (month day : Nat) : Option Binary64 :=
  let date : Date := ⟨year, month, day⟩
  if date.IsValid ∧ date.IsCovered then some (Binary64.ofInt date.julianDay) else none

end ArgoQuery.Calendar
