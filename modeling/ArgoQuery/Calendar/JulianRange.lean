import ArgoQuery.Calendar.Date
import ArgoQuery.WordSize

/-!
# Ranges of Julian days

A range includes its start and excludes its end, so that the ranges of consecutive months meet
without overlapping. Years are words of 32 bits with a sign, and the last of them has no year after
it. So it matters when the evaluation of a range counts on to the next year: for a December it does
so before it looks up a Julian day, for a whole year only once the start has one.
-/

namespace ArgoQuery.Calendar

/-- The Julian days from `min`, included, to `max`, excluded. -/
structure JulianRange where
  min : Binary64
  max : Binary64
deriving DecidableEq, Repr

/-- The year that a count of years was left at, because its successor is no word. -/
structure YearOverflow where
  year : Int
deriving DecidableEq, Repr

/-- Counts on by a year, and stops where the next one is no word of 32 bits. -/
def checkedYearAfter (year : Int) : Except YearOverflow Int :=
  if fitsSigned 32 (year + 1) then .ok (year + 1) else .error ⟨year⟩

/-- Counts on by a month. The year is counted on only behind a December. -/
def checkedMonthAfter (year : Int) (month : Nat) : Except YearOverflow (Int × Nat) := do
  if month = 12 then
    let next ← checkedYearAfter year
    return (next, 1)
  else return (year, month + 1)

namespace JulianRange

/-- Whether a Julian day lies in the range. NaN lies in none. -/
def contains (range : JulianRange) (julianDay : Binary64) : Bool :=
  decide (range.min ≤ julianDay) && decide (julianDay < range.max)

/-- From the first day of a month to the first day of the next, if the calendar covers both. The
next month is found first. -/
def ofMonth (year : Int) (month : Nat) : Except YearOverflow (Option JulianRange) := do
  if 1 ≤ month ∧ month ≤ 12 then
    let (nextYear, nextMonth) ← checkedMonthAfter year month
    return do
      let min ← julianDay? year month 1
      let max ← julianDay? nextYear nextMonth 1
      return ⟨min, max⟩
  else return none

/-- From the first day of a year to the first day of the next, if the calendar covers both. The next
year is found once there is a start. -/
def ofYear (year : Int) : Except YearOverflow (Option JulianRange) := do
  match julianDay? year 1 1 with
  | some min =>
    let next ← checkedYearAfter year
    return do
      let max ← julianDay? next 1 1
      return ⟨min, max⟩
  | none => return none

/-- The range of a month, if its evaluation comes to one. -/
def ofMonth? (year : Int) (month : Nat) : Option JulianRange := (ofMonth year month).toOption.join

/-- The range of a year, if its evaluation comes to one. -/
def ofYear? (year : Int) : Option JulianRange := (ofYear year).toOption.join

end JulianRange

end ArgoQuery.Calendar
