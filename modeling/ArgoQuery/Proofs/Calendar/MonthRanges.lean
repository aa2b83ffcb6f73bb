import ArgoQuery.Calendar.JulianRange
import ArgoQuery.Proofs.Binary64.RoundingOrder
import Mathlib.Tactic.IntervalCases
import Mathlib.Tactic.SplitIfs

/-!
# The months of a year meet

The first days of consecutive months are as many days apart as the first of the months has:
`julianDay_monthAfter`. So the ranges of the twelve months of a year lie one after the other, from
the start of the year to its end: `ofYear?_eq_some_iff` and `ofMonth?_of_covered` give all of them
by the starts of the months, which `startOf_le_startOf` puts in order.

That years are words is no limit to what has a range (`ofYear?_eq_bind`, `ofMonth?_eq_bind`),
because the calendar ends long before the words do.
-/

namespace ArgoQuery.Calendar

/-- The rule of the leap years, as conditions on the year. -/
theorem isLeapYear_iff {year : Int} :
    isLeapYear year = true ↔ year % 4 = 0 ∧ (year % 100 ≠ 0 ∨ year % 400 = 0) := by
  simp [isLeapYear]

/-- The first day of a month; the thirteenth month is the first one of the next year. -/
def monthStart (year : Int) (month : Nat) : Date :=
  if month ≤ 12 then ⟨year, month, 1⟩ else ⟨year + 1, 1, 1⟩

/-- A month that is over has taken its days. The proof treats February apart, whose leap day is the
last day of the year that is counted from March. -/
theorem julianDay_monthAfter (year : Int) {month : Nat} (first : 1 ≤ month) (last : month ≤ 12) :
    (monthStart year (month + 1)).julianDay =
      (monthStart year month).julianDay + daysInMonth year month := by
  by_cases february : month = 2
  · rw [february]
    simp only [monthStart, Date.julianDay, daysInMonth, isLeapYear_iff]
    norm_num
    split_ifs <;> omega
  · interval_cases month <;> simp [monthStart, Date.julianDay, daysInMonth] at february ⊢ <;> omega

/-- The start of a month as a number. -/
def startOf (year : Int) (month : Nat) : Binary64 :=
  Binary64.ofInt (monthStart year month).julianDay

/-- Months start in their order. -/
theorem startOf_le_startOf (year : Int) {month later : Nat} (first : 1 ≤ month)
    (order : month ≤ later) (last : later ≤ 13) : startOf year month ≤ startOf year later := by
  have days : (monthStart year month).julianDay ≤ (monthStart year later).julianDay := by
    induction later, order using Nat.le_induction with
    | base => exact Int.le_refl _
    | succ later order ih =>
      rw [julianDay_monthAfter year (first.trans order) (Nat.le_of_succ_le_succ last)]
      have before := ih (Nat.le_of_succ_le last)
      omega
  exact Binary64.ofInt_le_ofInt days

/-- The thirteenth month of a year starts with the next year. -/
theorem startOf_thirteen (year : Int) : startOf year 13 = startOf (year + 1) 1 := rfl

section FirstDay

variable {year : Int} {month : Nat}

/-- Each of the twelve months has a first day. -/
theorem isValid_firstDay (first : 1 ≤ month) (last : month ≤ 12) :
    Date.IsValid ⟨year, month, 1⟩ := by
  have length : 1 ≤ daysInMonth year month := by
    cases leap : isLeapYear year <;> interval_cases month <;> simp [daysInMonth, leap]
  exact ⟨Nat.le_refl 1, length⟩

/-- The first day of a month has a Julian day if its year is covered. -/
theorem julianDay?_firstDay (first : 1 ≤ month) (last : month ≤ 12) :
    julianDay? year month 1 =
      if -9999 ≤ year ∧ year ≤ 9999 then some (startOf year month) else none := by
  have covered : Date.IsCovered ⟨year, month, 1⟩ ↔ -9999 ≤ year ∧ year ≤ 9999 := Iff.rfl
  simp only [julianDay?, isValid_firstDay first last, true_and, covered, startOf, monthStart,
    if_pos last]

/-- A date that has a Julian day has a year of the calendar, and so a year after it in words. -/
theorem checkedYearAfter_of_julianDay? {day : Nat} {julianDay : Binary64}
    (dated : julianDay? year month day = some julianDay) :
    checkedYearAfter year = .ok (year + 1) := by
  have covered : -9999 ≤ year ∧ year ≤ 9999 := by
    by_contra uncovered
    rw [julianDay?, if_neg fun both => uncovered both.2] at dated
    cases dated
  refine if_pos ?_
  simp only [fitsSigned, Bool.and_eq_true, decide_eq_true_eq]
  norm_num
  omega

end FirstDay

/-- The range of a year is the one between its first day and the first day of the next year, if both
have Julian days. -/
theorem ofYear?_eq_bind (year : Int) :
    JulianRange.ofYear? year = do
      let min ← julianDay? year 1 1
      let max ← julianDay? (year + 1) 1 1
      return ⟨min, max⟩ := by
  simp only [JulianRange.ofYear?, JulianRange.ofYear]
  cases start : julianDay? year 1 1 with
  | none => rfl
  | some min =>
    rw [checkedYearAfter_of_julianDay? start]
    rfl

/-- The range of a month is the one between its first day and the first day of the next month, if
both have Julian days. -/
theorem ofMonth?_eq_bind (year : Int) (month : Nat) :
    JulianRange.ofMonth? year month =
      if 1 ≤ month ∧ month ≤ 12 then do
        let min ← julianDay? year month 1
        let max ← julianDay? (monthAfter year month).1 (monthAfter year month).2 1
        return ⟨min, max⟩
      else none := by
  rw [JulianRange.ofMonth?, JulianRange.ofMonth]
  by_cases within : 1 ≤ month ∧ month ≤ 12
  · rw [if_pos within, if_pos within]
    by_cases december : month = 12
    · cases start : julianDay? year month 1 with
      | none =>
        simp only [checkedMonthAfter, if_pos december]
        cases checkedYearAfter year <;> rfl
      | some min =>
        simp only [checkedMonthAfter, monthAfter, if_pos december,
          checkedYearAfter_of_julianDay? start]
        rfl
    · simp only [checkedMonthAfter, monthAfter, if_neg december]
      rfl
  · rw [if_neg within, if_neg within]
    rfl

/-- A year has a range if it and the next one are covered. -/
theorem ofYear?_eq_some_iff {year : Int} {range : JulianRange} :
    JulianRange.ofYear? year = some range ↔
      (-9999 ≤ year ∧ year ≤ 9998) ∧ range = ⟨startOf year 1, startOf year 13⟩ := by
  have one : (1 : Nat) ≤ 12 := by decide
  rw [ofYear?_eq_bind, julianDay?_firstDay (Nat.le_refl 1) one,
    julianDay?_firstDay (Nat.le_refl 1) one, startOf_thirteen]
  by_cases covered : -9999 ≤ year ∧ year ≤ 9999
  · rw [if_pos covered]
    by_cases next : -9999 ≤ year + 1 ∧ year + 1 ≤ 9999
    · rw [if_pos next]
      have both : -9999 ≤ year ∧ year ≤ 9998 := by omega
      change some _ = some range ↔ _
      rw [Option.some.injEq, eq_comm, and_iff_right both]
    · rw [if_neg next]
      refine iff_of_false (fun defined => by cases defined) (fun ⟨both, _⟩ => next ?_)
      omega
  · rw [if_neg covered]
    refine iff_of_false (fun defined => by cases defined) (fun ⟨both, _⟩ => covered ?_)
    omega

/-- The months of a year that has a range have ranges too, one after the other. -/
theorem ofMonth?_of_covered {year : Int} (covered : -9999 ≤ year ∧ year ≤ 9998) {month : Nat}
    (first : 1 ≤ month) (last : month ≤ 12) :
    JulianRange.ofMonth? year month = some ⟨startOf year month, startOf year (month + 1)⟩ := by
  have within : -9999 ≤ year ∧ year ≤ 9999 := by omega
  rw [ofMonth?_eq_bind, if_pos ⟨first, last⟩, julianDay?_firstDay first last, if_pos within]
  by_cases december : month = 12
  · have next : -9999 ≤ year + 1 ∧ year + 1 ≤ 9999 := by omega
    simp only [december, monthAfter, if_true]
    rw [julianDay?_firstDay (Nat.le_refl 1) (by decide), if_pos next]
    rfl
  · simp only [monthAfter, if_neg december]
    rw [julianDay?_firstDay (by omega) (by omega), if_pos within]
    rfl

end ArgoQuery.Calendar
