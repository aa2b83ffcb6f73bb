import ArgoQuery.Proofs.Binary64.WholeNumbers
import ArgoQuery.Proofs.Calendar.MonthRanges
import ArgoQuery.Proofs.Calendar.Tilings

/-!
# Julian days count days

The Julian day of the day after a date is the next one (`julianDay_next`), and no two dates share
one (`julianDay_inj`). So a Julian day is that of the epoch and as many more as there are days to
walk from the epoch to the date: `isDaysFromEpoch_iff`. Those of the covered years are small whole
numbers, which are kept exactly, so that months end where the next ones begin and take as long as
they have days: `startOf_succ_apart`. Main statement: `months_tile_year`.
-/

namespace ArgoQuery.Calendar

/-- Whether it takes so many days to walk from the epoch to a date, or back if the days are
negative. -/
def Date.IsDaysFromEpoch (date : Date) (days : Int) : Prop :=
  Date.next^[days.toNat] epoch = Date.next^[(-days).toNat] date

/-- The months that have days are the twelve of a year. -/
theorem daysInMonth_pos_iff {year : Int} {month : Nat} :
    1 ≤ daysInMonth year month ↔ 1 ≤ month ∧ month ≤ 12 := by
  constructor
  · intro lasting
    by_contra outside
    have none : daysInMonth year month = 0 := by
      unfold daysInMonth
      split <;> omega
    omega
  · rintro ⟨first, last⟩
    exact (isValid_firstDay first last).2

/-- No month has more than 31 days. -/
theorem daysInMonth_le (year : Int) (month : Nat) : daysInMonth year month ≤ 31 := by
  unfold daysInMonth
  split <;> first | omega | (split_ifs <;> omega)

/-- A valid date is in one of the twelve months. -/
theorem Date.IsValid.month {date : Date} (valid : date.IsValid) :
    1 ≤ date.month ∧ date.month ≤ 12 :=
  daysInMonth_pos_iff.mp (valid.1.trans valid.2)

/-- Within a month the Julian day goes with the day of the month. -/
theorem julianDay_eq (date : Date) :
    date.julianDay = Date.julianDay ⟨date.year, date.month, 1⟩ + date.day - 1 := by
  simp only [Date.julianDay]
  omega

/-- The days of a month follow its first one. -/
theorem julianDay_eq_monthStart {date : Date} (valid : date.IsValid) :
    date.julianDay = (monthStart date.year date.month).julianDay + date.day - 1 := by
  rw [monthStart, if_pos valid.month.2]
  exact julianDay_eq date

/-- The day after the last of a month is the first of the next. -/
theorem next_eq_monthStart {date : Date} (valid : date.IsValid)
    (last : date.day = daysInMonth date.year date.month) :
    date.next = monthStart date.year (date.month + 1) := by
  have bound := valid.month
  simp only [Date.next, monthAfter, monthStart]
  split_ifs <;> first | omega | rfl

/-- The first day of a month is valid, also that of the thirteenth. -/
theorem isValid_monthStart (year : Int) {month : Nat} (first : 1 ≤ month) :
    (monthStart year month).IsValid := by
  unfold monthStart
  split_ifs with within
  · exact isValid_firstDay first within
  · exact isValid_firstDay (Nat.le_refl 1) (by decide)

/-- The day after a valid date is valid. -/
theorem isValid_next {date : Date} (valid : date.IsValid) : date.next.IsValid := by
  rcases valid.2.lt_or_eq with before | last
  · rw [Date.next, if_pos before]
    exact ⟨Nat.le_add_left 1 _, before⟩
  · rw [next_eq_monthStart valid last]
    exact isValid_monthStart _ (Nat.le_add_left 1 _)

/-- One day on is one Julian day on. -/
theorem julianDay_next {date : Date} (valid : date.IsValid) :
    date.next.julianDay = date.julianDay + 1 := by
  rcases valid.2.lt_or_eq with before | last
  · rw [Date.next, if_pos before, julianDay_eq, julianDay_eq date]
    push_cast
    ring
  · rw [next_eq_monthStart valid last, julianDay_monthAfter _ valid.month.1 valid.month.2,
      julianDay_eq_monthStart valid, last]
    ring

/-- So many days on are so many Julian days on. -/
theorem julianDay_iterate_next {date : Date} (valid : date.IsValid) (days : Nat) :
    (Date.next^[days] date).IsValid ∧
      (Date.next^[days] date).julianDay = date.julianDay + days := by
  induction days with
  | zero => exact ⟨valid, (Int.add_zero _).symm⟩
  | succ days ih =>
    rw [Function.iterate_succ_apply']
    refine ⟨isValid_next ih.1, ?_⟩
    rw [julianDay_next ih.1, ih.2]
    push_cast
    ring

/-- The Julian day on which a month starts, of all months counted in one row. -/
def julianDayOfMonth (month : Int) : Int :=
  (monthStart (month / 12) ((month % 12).toNat + 1)).julianDay

/-- A month starts when the one before has taken its days. The proof looks at December apart,
because only after it does the year change with the month. -/
theorem julianDayOfMonth_succ (month : Int) :
    julianDayOfMonth (month + 1) =
      julianDayOfMonth month + daysInMonth (month / 12) ((month % 12).toNat + 1) := by
  have first : 1 ≤ (month % 12).toNat + 1 := Nat.le_add_left 1 _
  have last : (month % 12).toNat + 1 ≤ 12 := by omega
  rw [julianDayOfMonth, julianDayOfMonth, ← julianDay_monthAfter _ first last]
  rcases last.lt_or_eq with within | december
  · have year : (month + 1) / 12 = month / 12 := by omega
    have index : ((month + 1) % 12).toNat = (month % 12).toNat + 1 := by omega
    rw [year, index]
  · have year : (month + 1) / 12 = month / 12 + 1 := by omega
    have index : ((month + 1) % 12).toNat = 0 := by omega
    rw [year, index, december]
    rfl

/-- Of two months the later one does not start before the other. -/
theorem julianDayOfMonth_mono {month later : Int} (order : month ≤ later) :
    julianDayOfMonth month ≤ julianDayOfMonth later := by
  induction later, order using Int.leInduction with
  | base => exact Int.le_refl _
  | succ later order ih =>
    rw [julianDayOfMonth_succ]
    omega

/-- The months counted in one row, with the first month of year zero as month zero. -/
def Date.monthNumber (date : Date) : Int := 12 * date.year + date.month - 1

section Valid

variable {date : Date} (valid : date.IsValid)

include valid

/-- The number of the month of a date tells its year and its month. -/
theorem monthNumber_parts :
    date.monthNumber / 12 = date.year ∧ (date.monthNumber % 12).toNat + 1 = date.month := by
  have bound := valid.month
  unfold Date.monthNumber
  omega

/-- The Julian day of a date is counted from the start of its month. -/
theorem julianDay_eq_julianDayOfMonth :
    date.julianDay = julianDayOfMonth date.monthNumber + date.day - 1 := by
  obtain ⟨year, index⟩ := monthNumber_parts valid
  rw [julianDayOfMonth, year, index]
  exact julianDay_eq_monthStart valid

/-- The days of a month are over before the next month starts. -/
theorem julianDay_lt_julianDayOfMonth :
    date.julianDay < julianDayOfMonth (date.monthNumber + 1) := by
  obtain ⟨year, index⟩ := monthNumber_parts valid
  have last := valid.2
  rw [julianDayOfMonth_succ, julianDay_eq_julianDayOfMonth valid, year, index]
  omega

/-- Dates of different months have different Julian days. -/
theorem monthNumber_le_of_julianDay_le {other : Date} (valid' : other.IsValid)
    (order : date.julianDay ≤ other.julianDay) : date.monthNumber ≤ other.monthNumber := by
  by_contra later
  have months : julianDayOfMonth (other.monthNumber + 1) ≤ julianDayOfMonth date.monthNumber :=
    julianDayOfMonth_mono (by omega)
  have before := julianDay_lt_julianDayOfMonth valid'
  have start := julianDay_eq_julianDayOfMonth valid
  have first := valid.1
  omega

/-- No two dates share a Julian day. Months do not overlap, so the months of two that did would be
the same, and with them the days of the month. -/
theorem julianDay_inj {other : Date} (valid' : other.IsValid)
    (same : date.julianDay = other.julianDay) : date = other := by
  have month : date.monthNumber = other.monthNumber :=
    Int.le_antisymm (monthNumber_le_of_julianDay_le valid valid' same.le)
      (monthNumber_le_of_julianDay_le valid' valid same.ge)
  have day : date.day = other.day := by
    rw [julianDay_eq_julianDayOfMonth valid, julianDay_eq_julianDayOfMonth valid', month] at same
    omega
  obtain ⟨year, index⟩ := monthNumber_parts valid
  obtain ⟨year', index'⟩ := monthNumber_parts valid'
  cases date
  cases other
  rw [month] at year index
  simp only [Date.mk.injEq]
  exact ⟨year.symm.trans year', index.symm.trans index', day⟩

/-- A date is as many days from the epoch as its Julian day is from that of the epoch. Of the two
walks that meet, one has no step, and the other one changes the Julian day by its length. -/
theorem isDaysFromEpoch_iff {days : Int} :
    date.IsDaysFromEpoch days ↔ date.julianDay = epochJulianDay + days := by
  have epochValid : epoch.IsValid := by decide
  have epochDay : epoch.julianDay = epochJulianDay := by decide
  obtain ⟨forthValid, forth⟩ := julianDay_iterate_next epochValid days.toNat
  obtain ⟨backValid, back⟩ := julianDay_iterate_next valid (-days).toNat
  constructor
  · intro met
    have same := congrArg Date.julianDay met
    omega
  · intro distance
    refine julianDay_inj forthValid backValid ?_
    omega

/-- The Julian days of the covered years are small whole numbers. -/
theorem natAbs_julianDay_lt (covered : date.IsCovered) : date.julianDay.natAbs < 2 ^ 53 := by
  obtain ⟨earliest, latest⟩ := covered
  have bound := valid.2.trans (daysInMonth_le date.year date.month)
  simp only [Date.julianDay, epochJulianDay]
  split_ifs <;> omega

end Valid

/-- The Julian day of a date as a number, with the days that it counts. -/
theorem julianDay?_eq_some_iff {year : Int} {month day : Nat} {julian : Binary64} :
    julianDay? year month day = some julian ↔
      (Date.IsValid ⟨year, month, day⟩ ∧ Date.IsCovered ⟨year, month, day⟩) ∧
        Binary64.ofInt (Date.julianDay ⟨year, month, day⟩) = julian := by
  rw [julianDay?]
  split_ifs with defined
  · rw [Option.some.injEq, and_iff_right defined]
  · exact iff_of_false (fun impossible => by cases impossible) (fun both => defined both.1)

/-- A Julian day that is defined stands for the days from the epoch to its date, which no other
number counts. -/
theorem exists_days_of_julianDay? {year : Int} {month day : Nat} {julian : Binary64}
    (defined : julianDay? year month day = some julian) :
    ∃ days, (∀ count, Date.IsDaysFromEpoch ⟨year, month, day⟩ count ↔ count = days) ∧
      julian.IsExactly (epochJulianDay + days) := by
  obtain ⟨⟨valid, within⟩, rfl⟩ := julianDay?_eq_some_iff.mp defined
  refine ⟨Date.julianDay ⟨year, month, day⟩ - epochJulianDay, fun count => ?_, ?_⟩
  · rw [isDaysFromEpoch_iff valid]
    omega
  · rw [add_sub_cancel]
    exact Binary64.isExactly_ofInt (natAbs_julianDay_lt valid within)

section Months

variable {year : Int} (covered : -9999 ≤ year ∧ year ≤ 9998)

include covered

/-- The months of a year that is covered with the next one start on covered days. -/
theorem isCovered_monthStart (month : Nat) : (monthStart year month).IsCovered := by
  unfold monthStart
  split_ifs <;> simp only [Date.IsCovered] <;> omega

/-- The starts of two months are as many days apart as their Julian days. -/
theorem startOf_apart {first later days : Nat} (positive : 1 ≤ first) (positive' : 1 ≤ later)
    (distance : (monthStart year later).julianDay = (monthStart year first).julianDay + days)
    (lasting : 1 ≤ days) (few : days < 2 ^ 53) :
    startOf year first < startOf year later ∧
      (startOf year later - startOf year first).IsExactly days := by
  have small {month : Nat} (positive : 1 ≤ month) :
      (monthStart year month).julianDay.natAbs < 2 ^ 53 :=
    natAbs_julianDay_lt (isValid_monthStart year positive) (isCovered_monthStart covered month)
  have difference : (monthStart year later).julianDay - (monthStart year first).julianDay = days :=
    by omega
  constructor
  · exact Binary64.ofInt_lt_ofInt (small positive) (small positive') (by omega)
  · rw [startOf, startOf, Binary64.ofInt_sub_ofInt (small positive') (small positive), difference]
    exact Binary64.isExactly_ofInt few

/-- A month ends as many days after its start as it has. -/
theorem startOf_succ_apart {month : Nat} (first : 1 ≤ month) (last : month ≤ 12) :
    startOf year month < startOf year (month + 1) ∧
      (startOf year (month + 1) - startOf year month).IsExactly (daysInMonth year month) :=
  startOf_apart covered first (first.trans (Nat.le_succ month))
    (julianDay_monthAfter year first last) (daysInMonth_pos_iff.mpr ⟨first, last⟩)
    ((daysInMonth_le year month).trans_lt (by decide))

/-- Consecutive months of a year have ranges that lie one after the other. -/
theorem exists_tiling (first count : Nat) (positive : 1 ≤ first) (within : first + count ≤ 13) :
    ∃ months, (List.range' first count).mapM (JulianRange.ofMonth? year) = some months ∧
      JulianRange.Tiles (startOf year first) months (startOf year (first + count)) := by
  induction count generalizing first with
  | zero => exact ⟨[], rfl, rfl⟩
  | succ count ih =>
    have last : first ≤ 12 := by omega
    obtain ⟨rest, ranges, tiles⟩ := ih (first + 1) (Nat.le_add_left 1 first) (by omega)
    refine ⟨⟨startOf year first, startOf year (first + 1)⟩ :: rest, ?_, rfl,
      (startOf_succ_apart covered positive last).1, ?_⟩
    · rw [List.range'_succ, List.mapM_cons, ofMonth?_of_covered covered positive last, ranges]
      rfl
    · rwa [Nat.add_right_comm] at tiles

end Months

/-- The Julian day of a date counts the days from the epoch, and the ranges of months and years
follow from it without a gap.

A Julian day is defined for the dates that exist in the covered years. It stands for the whole
number that comes so many after 2440588 as there are days from the epoch to the date, and there is
no other count of these days. So the twelve ranges of a year's months lie one after the other, none
of them empty, from the start of the year to the start of the next, and each day of the year lies in
one of them, each other in none. -/
theorem months_tile_year :
    (∀ (year : Int) (month day : Nat),
      ((julianDay? year month day).isSome = true ↔
        Date.IsValid ⟨year, month, day⟩ ∧ -9999 ≤ year ∧ year ≤ 9999) ∧
      ∀ julian, julianDay? year month day = some julian →
        ∃ days, (∀ count, Date.IsDaysFromEpoch ⟨year, month, day⟩ count ↔ count = days) ∧
          julian.IsExactly (2440588 + days)) ∧
    ∀ year : Int, -9999 ≤ year → year ≤ 9998 →
      ∃ whole months, JulianRange.ofYear? year = some whole ∧
        (List.range' 1 12).mapM (JulianRange.ofMonth? year) = some months ∧
        JulianRange.Tiles whole.min months whole.max ∧
        julianDay? (year + 1) 1 1 = some whole.max ∧
        (∀ next, JulianRange.ofYear? (year + 1) = some next → whole.max = next.min) ∧
        ∀ juld : Binary64, (juld.isNaN = true → whole.contains juld = false) ∧
          months.countP (·.contains juld) = if whole.contains juld then 1 else 0 := by
  refine ⟨fun year month day => ⟨?_, fun julian defined => ?_⟩, fun year earliest latest => ?_⟩
  · simp only [Option.isSome_iff_exists, julianDay?_eq_some_iff, exists_and_left, exists_eq',
      and_true, Date.IsCovered]
  · exact exists_days_of_julianDay? defined
  · have covered : -9999 ≤ year ∧ year ≤ 9998 := ⟨earliest, latest⟩
    have defined := ofYear?_eq_some_iff.mpr ⟨covered, rfl⟩
    obtain ⟨months, ranges, tiles⟩ := exists_tiling covered 1 12 (Nat.le_refl 1) (Nat.le_refl 13)
    refine ⟨⟨startOf year 1, startOf year 13⟩, months, defined, ranges, tiles, ?_, ?_,
      fun juld => ⟨JulianRange.contains_eq_false_of_isNaN _, ?_⟩⟩
    · rw [julianDay?_firstDay (Nat.le_refl 1) (by decide), if_pos (by omega)]
      rfl
    · intro next defined
      rw [(ofYear?_eq_some_iff.mp defined).2]
      rfl
    · exact tiles.countP_contains juld

/-- The leap day of the year 2000 has a Julian day, and the months of the year 4 before the first
one tile it. -/
theorem months_tile_leap_years :
    julianDay? 2000 2 29 = some (Binary64.ofInt 2451604) ∧
    (∃ days, (∀ count, Date.IsDaysFromEpoch ⟨2000, 2, 29⟩ count ↔ count = days) ∧
      (Binary64.ofInt 2451604).IsExactly (2440588 + days)) ∧
    -9999 ≤ (-4 : Int) ∧ (-4 : Int) ≤ 9998 ∧
    ∃ whole months, JulianRange.ofYear? (-4) = some whole ∧
      (List.range' 1 12).mapM (JulianRange.ofMonth? (-4)) = some months ∧
      JulianRange.Tiles whole.min months whole.max ∧
      ∀ juld : Binary64,
        months.countP (·.contains juld) = if whole.contains juld then 1 else 0 := by
  have leap_day : julianDay? 2000 2 29 = some (Binary64.ofInt 2451604) := by decide +kernel
  refine ⟨leap_day, (months_tile_year.1 2000 2 29).2 _ leap_day, by decide, by decide, ?_⟩
  obtain ⟨whole, months, year, ranges, tiles, -, -, cover⟩ :=
    months_tile_year.2 (-4) (by decide) (by decide)
  exact ⟨whole, months, year, ranges, tiles, fun juld => (cover juld).2⟩

end ArgoQuery.Calendar
