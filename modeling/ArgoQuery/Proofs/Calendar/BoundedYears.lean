import ArgoQuery.Calendar.DateHint
import ArgoQuery.Proofs.Calendar.DayCount

/-!
# Hints at the end of the years

Main statement: `range_of_words`, about the hints whose year is a word of 32 bits and whose month is
one of 8. Their evaluation leaves the words for one of them only, the December of the last year,
because there it asks for the year after it before it finds that not even the start of that December
has a Julian day (`range_overflows`). A whole year is evaluated in the other order, and the last one
does no harm there.

There is a range exactly if both of its bounds are dates of the calendar: `range?_eq_some_iff`.
-/

namespace ArgoQuery.Calendar

/-- Whether a date is one of the calendar. -/
def Date.Exists (date : Date) : Prop := date.IsValid ∧ date.IsCovered

/-- The first day that a hint names and the first day after those that it names. -/
def DateHint.bounds? (hint : DateHint) : Option (Date × Date) :=
  match hint.year, hint.month with
  | some year, some month =>
    if 1 ≤ month ∧ month ≤ 12 then some (monthStart year month, monthStart year (month + 1))
    else none
  | some year, none => some (monthStart year 1, monthStart year 13)
  | none, _ => none

/-- The days from a date to another. -/
def JulianRange.between (first after : Date) : JulianRange :=
  ⟨Binary64.ofInt first.julianDay, Binary64.ofInt after.julianDay⟩

/-- Two dates make a range if both exist, and otherwise none. -/
theorem bind_julianDay?_eq_some_iff {first after : Date} {range : JulianRange} :
    (do
      let min ← julianDay? first.year first.month first.day
      let max ← julianDay? after.year after.month after.day
      return (⟨min, max⟩ : JulianRange)) = some range ↔
      first.Exists ∧ after.Exists ∧ range = .between first after := by
  constructor
  · intro defined
    obtain ⟨min, start, rest⟩ := Option.bind_eq_some_iff.mp defined
    obtain ⟨max, stop, same⟩ := Option.bind_eq_some_iff.mp rest
    obtain ⟨firstExists, rfl⟩ := julianDay?_eq_some_iff.mp start
    obtain ⟨afterExists, rfl⟩ := julianDay?_eq_some_iff.mp stop
    exact ⟨firstExists, afterExists, (Option.some.inj same).symm⟩
  · rintro ⟨firstExists, afterExists, rfl⟩
    rw [julianDay?_eq_some_iff.mpr ⟨firstExists, rfl⟩,
      julianDay?_eq_some_iff.mpr ⟨afterExists, rfl⟩]
    rfl

/-- The month after a month starts where the month ends. -/
theorem monthStart_succ {month : Nat} (last : month ≤ 12) (year : Int) :
    monthStart year (month + 1) = ⟨(monthAfter year month).1, (monthAfter year month).2, 1⟩ := by
  rcases last.lt_or_eq with before | rfl
  · rw [monthStart, if_pos (Nat.succ_le_of_lt before), monthAfter, if_neg before.ne]
  · rfl

/-- A hint has a range exactly if it names a first day and a first day after, and both exist. The
proof follows the cases of `DateHint.bounds?`, which are those of the evaluation. -/
theorem range?_eq_some_iff {hint : DateHint} {range : JulianRange} :
    hint.range? = some range ↔
      ∃ first after, hint.bounds? = some (first, after) ∧ first.Exists ∧ after.Exists ∧
        range = .between first after := by
  have bounded {first after : Date} (bounds : hint.bounds? = some (first, after)) :
      (∃ first after, hint.bounds? = some (first, after) ∧ first.Exists ∧ after.Exists ∧
        range = .between first after) ↔
      first.Exists ∧ after.Exists ∧ range = .between first after := by
    simp [bounds]
  have unbounded (none_named : hint.bounds? = none) :
      ¬ ∃ first after, hint.bounds? = some (first, after) ∧ first.Exists ∧ after.Exists ∧
        range = .between first after := by
    simp [none_named]
  have absent : (none : Option JulianRange) ≠ some range := (Option.some_ne_none range).symm
  obtain ⟨_ | year, month⟩ := hint
  · exact iff_of_false absent (unbounded rfl)
  · cases month with
    | none =>
      rw [bounded rfl, ← bind_julianDay?_eq_some_iff]
      exact Eq.congr_left (ofYear?_eq_bind year)
    | some month =>
      have evaluated : DateHint.range? ⟨some year, some month⟩ = JulianRange.ofMonth? year month :=
        rfl
      rw [evaluated, ofMonth?_eq_bind]
      by_cases within : 1 ≤ month ∧ month ≤ 12
      · have start : monthStart year month = ⟨year, month, 1⟩ := if_pos within.2
        rw [bounded (if_pos within), start, monthStart_succ within.2,
          ← bind_julianDay?_eq_some_iff, if_pos within]
      · rw [if_neg within]
        exact iff_of_false absent (unbounded (if_neg within))

/-- An evaluation gives a range exactly if it comes to one. -/
theorem range_eq_ok_some_iff {hint : DateHint} {range : JulianRange} :
    hint.range = .ok (some range) ↔ hint.range? = some range := by
  rw [DateHint.range?]
  cases hint.range with
  | error overflow => simp [Except.toOption]
  | ok result => simp [Except.toOption]

/-- A count of years stops only at a year without a next one, and says which it was. -/
theorem checkedYearAfter_eq_error_iff {year : Int} {overflow : YearOverflow} :
    checkedYearAfter year = .error overflow ↔
      fitsSigned 32 (year + 1) = false ∧ overflow = ⟨year⟩ := by
  rw [checkedYearAfter]
  cases fitsSigned 32 (year + 1) with
  | false => simp [eq_comm]
  | true => simp

/-- The evaluation of a hint leaves the words exactly for the December of a year that has no year
after it. For another month no year is counted on, and a whole year that is counted on from has a
first day, so that it is one of the calendar. -/
theorem range_eq_error_iff {hint : DateHint} {overflow : YearOverflow} :
    hint.range = .error overflow ↔
      hint.year = some overflow.year ∧ hint.month = some 12 ∧
        fitsSigned 32 (overflow.year + 1) = false := by
  obtain ⟨_ | year, month⟩ := hint
  · simp [DateHint.range]
  · cases month with
    | none =>
      refine iff_of_false ?_ (fun named => Option.some_ne_none 12 named.2.1.symm)
      simp only [DateHint.range, JulianRange.ofYear]
      cases start : julianDay? year 1 1 with
      | none => rintro ⟨⟩
      | some min =>
        rw [checkedYearAfter_of_julianDay? start]
        rintro ⟨⟩
    | some month =>
      by_cases december : month = 12
      · have stops : DateHint.range ⟨some year, some month⟩ = .error overflow ↔
            checkedYearAfter year = .error overflow := by
          rw [december]
          simp only [DateHint.range, JulianRange.ofMonth, checkedMonthAfter]
          cases checkedYearAfter year <;> simp
        rw [stops, checkedYearAfter_eq_error_iff]
        constructor
        · rintro ⟨lost, rfl⟩
          exact ⟨rfl, congrArg some december, lost⟩
        · rintro ⟨named, -, lost⟩
          obtain rfl := Option.some.inj named
          exact ⟨lost, rfl⟩
      · refine iff_of_false ?_ (fun named => december (Option.some.inj named.2.1))
        simp only [DateHint.range, JulianRange.ofMonth, checkedMonthAfter, if_neg december]
        split_ifs <;> rintro ⟨⟩

/-- Of the words of 32 bits only the last has no successor. -/
theorem fitsSigned_succ_iff {year : Int32} :
    fitsSigned 32 (year.toInt + 1) = true ↔ year ≠ Int32.maxValue := by
  have least := year.le_toInt
  have greatest := year.toInt_lt
  have last : Int32.maxValue.toInt = 2147483647 := by decide
  rw [ne_eq, ← Int32.toInt_inj, last]
  simp only [fitsSigned, Bool.and_eq_true, decide_eq_true_eq]
  norm_num
  omega

/-- What the evaluation of a hint of words comes to. It asks for a year after the last one, and
leaves the words, exactly for the December of that year. It gives a range exactly if the first day
that the hint names and the first day after those that it names exist, and then it is the one
between them; what remains evaluates to no range.

The first part follows the evaluation to the one place where a year is counted on without a look at
it. -/
theorem range_of_words (year : Option Int32) (month : Option UInt8) :
    let hint : DateHint := ⟨year.map Int32.toInt, month.map UInt8.toNat⟩
    (∀ overflow, hint.range = .error overflow ↔
        overflow = ⟨2147483647⟩ ∧ year = some Int32.maxValue ∧ month = some 12) ∧
      ∀ range, hint.range = .ok (some range) ↔
        ∃ first after, hint.bounds? = some (first, after) ∧ first.Exists ∧ after.Exists ∧
          range = .between first after := by
  intro hint
  refine ⟨fun overflow => ?_, fun _ => range_eq_ok_some_iff.trans range?_eq_some_iff⟩
  have december : hint.month = some 12 ↔ month = some 12 := by
    cases month with
    | none => simp [hint]
    | some month => simp [hint, ← UInt8.toNat_inj]
  have last : Int32.maxValue.toInt = 2147483647 := by decide
  rw [range_eq_error_iff, december]
  constructor
  · rintro ⟨named, twelve, lost⟩
    obtain ⟨year, rfl, same⟩ := Option.map_eq_some_iff.mp named
    rw [← same, Bool.eq_false_iff, ne_eq, fitsSigned_succ_iff, not_not] at lost
    rw [lost, last] at same
    refine ⟨?_, congrArg some lost, twelve⟩
    rw [same]
  · rintro ⟨rfl, rfl, twelve⟩
    exact ⟨congrArg some last, twelve, by decide⟩

/-- For the December of the last year the evaluation asks for a year that is no word. For another
month of that year, and for the whole of it, it finds that there is no range. -/
theorem range_overflows :
    fitsSigned 32 2147483647 = true ∧ fitsSigned 32 (2147483647 + 1) = false ∧
      DateHint.range ⟨some 2147483647, some 12⟩ = .error ⟨2147483647⟩ ∧
      DateHint.range ⟨some 2147483647, some 11⟩ = .ok none ∧
      DateHint.range ⟨some 2147483647, none⟩ = .ok none := by
  decide +kernel

end ArgoQuery.Calendar
