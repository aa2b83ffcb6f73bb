import ArgoQuery.Engine.Plan
import ArgoQuery.Proofs.Calendar.BoundedYears

/-!
# The dates that a plan asks for

A year that a text mentions is one of this century, because its last two digits are decimal ones
(`yearIn?_bounds`), and a month is one of the table's (`monthIn?_bounds`). So the months and the
year have ranges, as long as they have days: `range?_of_year`. Their evaluation stays within the
words of 32 bits that years are (`range_of_isSound`), so a plan is never left without an answer to
whether there is a range. The range is all that a descriptor asks of the Julian day
(`dateConditions_describe`). Main statement: `planned_dates_sound`.
-/

namespace ArgoQuery

open Calendar
open Geography (Gazetteer)

namespace Calendar

/-- A digit is a character from zero to nine. -/
theorem digit_bounds {c : Char} (digit : c.isDigit = true) :
    '0'.toNat ≤ c.toNat ∧ c.toNat ≤ '9'.toNat := by
  simp only [Char.isDigit, Bool.and_eq_true, decide_eq_true_eq] at digit
  exact ⟨UInt32.le_iff_toNat_le.mp digit.1, UInt32.le_iff_toNat_le.mp digit.2⟩

/-- A year that a text mentions is one of this century. -/
theorem yearIn?_bounds {lowered : List Char} {year : Int}
    (found : DateHint.yearIn? lowered = some year) : 2000 ≤ year ∧ year ≤ 2099 := by
  obtain ⟨⟨tens, ones⟩, -, value⟩ := Option.bind_eq_some_iff.mp found
  dsimp only at value
  split_ifs at value with digits
  cases value
  rw [Bool.and_eq_true] at digits
  have tensBounds := digit_bounds digits.1
  have onesBounds := digit_bounds digits.2
  have zero : '0'.toNat = 48 := rfl
  have nine : '9'.toNat = 57 := rfl
  omega

/-- A month that a text mentions is a month of the year. -/
theorem monthIn?_bounds {lowered : List Char} {month : Nat}
    (found : DateHint.monthIn? lowered = some month) : 1 ≤ month ∧ month ≤ 12 := by
  have table : ∀ entry ∈ DateHint.monthNames, 1 ≤ entry.2 ∧ entry.2 ≤ 12 := by decide
  obtain ⟨entry, named, rfl⟩ := Option.map_eq_some_iff.mp found
  exact table entry (List.mem_of_find?_eq_some named)

/-- Whether a hint names a year of this century or none, and a month of the year or none, but not
nothing at all. -/
structure DateHint.IsSound (hint : DateHint) : Prop where
  year : ∀ year, hint.year = some year → 2000 ≤ year ∧ year ≤ 2099
  month : ∀ month, hint.month = some month → 1 ≤ month ∧ month ≤ 12
  named : hint.year.isSome = true ∨ hint.month.isSome = true

/-- What a text says about the date is sound, whatever the text. -/
theorem isSound_of_ofText? {text : String} {hint : DateHint}
    (found : DateHint.ofText? text = some hint) : hint.IsSound := by
  rw [DateHint.ofText?, Option.ite_none_left_eq_some] at found
  obtain ⟨named, same⟩ := found
  rw [← Option.some.inj same]
  simp only [DateHint.ofText] at named ⊢
  generalize (Text.lowercase text).toList = lowered at named ⊢
  refine ⟨fun _ => yearIn?_bounds, fun _ => monthIn?_bounds, ?_⟩
  rw [Bool.not_eq_true, DateHint.isEmpty, Bool.and_eq_false_iff] at named
  simpa only [Option.isNone_eq_false_iff] using named

/-- The days of a month of a year, or of the whole year where no month is given. -/
def daysNamed (year : Int) : Option Nat → Nat
  | some month => daysInMonth year month
  | none => daysInYear year

/-- A year that is over has taken its days. -/
theorem julianDay_yearAfter (year : Int) :
    (monthStart year 13).julianDay = (monthStart year 1).julianDay + daysInYear year := by
  simp only [monthStart, Date.julianDay, daysInYear, isLeapYear_iff]
  norm_num
  split_ifs <;> omega

/-- A year has 365 days, or 366. -/
theorem daysInYear_bounds (year : Int) : 365 ≤ daysInYear year ∧ daysInYear year ≤ 366 := by
  unfold daysInYear
  split_ifs <;> omega

/-- A hint that names a year has a range, as long as what it names has days. -/
theorem range?_of_year {hint : DateHint} (sound : hint.IsSound) {year : Int}
    (named : hint.year = some year) :
    ∃ range, hint.range? = some range ∧ range.min < range.max ∧
      (range.max - range.min).IsExactly (daysNamed year hint.month) := by
  obtain ⟨least, greatest⟩ := sound.year year named
  have covered : -9999 ≤ year ∧ year ≤ 9998 := by omega
  rw [DateHint.range?, DateHint.range, named]
  cases given : hint.month with
  | some month =>
    obtain ⟨first, last⟩ := sound.month month given
    exact ⟨_, ofMonth?_of_covered covered first last, startOf_succ_apart covered first last⟩
  | none =>
    obtain ⟨fewest, most⟩ := daysInYear_bounds year
    refine ⟨_, ofYear?_eq_some_iff.mpr ⟨covered, rfl⟩, ?_⟩
    exact startOf_apart covered (Nat.le_refl 1) (by decide) (julianDay_yearAfter year)
      (le_trans (by decide) fewest) (most.trans_lt (by decide))

/-- The evaluation of a hint that a text can give comes to its range, or to none. -/
theorem range_of_isSound {hint : DateHint} (sound : hint.IsSound) :
    hint.range = .ok hint.range? := by
  cases evaluated : hint.range with
  | error overflow =>
    obtain ⟨named, -, lost⟩ := range_eq_error_iff.mp evaluated
    obtain ⟨least, greatest⟩ := sound.year _ named
    simp only [fitsSigned, Bool.and_eq_false_iff, decide_eq_false_iff_not] at lost
    norm_num at lost
    omega
  | ok result =>
    rw [DateHint.range?, evaluated]
    rfl

/-- A hint without a year has no range. -/
theorem range?_of_no_year {hint : DateHint} (none_named : hint.year = none) :
    hint.range? = none := by
  rw [DateHint.range?, DateHint.range, none_named]
  rfl

end Calendar

/-- The conditions of a descriptor that are on the Julian day. -/
def Descriptor.dateConditions (descriptor : Descriptor) : List Condition :=
  descriptor.conditions.filter fun condition => decide (condition.column = .julianDay)

/-- The range is all that a descriptor is given to ask of the Julian day: neither the box nor the
measurement that a topic requires is about it. -/
theorem dateConditions_ofTopic (topic : Topic) (box : Option Geography.GeoBox)
    (range : Option JulianRange) :
    (Descriptor.ofTopic topic box range).dateConditions =
      (range.map fun range => .between .julianDay range.min range.max .excluded).toList := by
  have place : ((box.map Descriptor.boxConditions).getD []).filter
      (fun condition => decide (condition.column = .julianDay)) = [] := by
    cases box with
    | none => rfl
    | some box =>
      simp only [Option.map_some, Option.getD_some, Descriptor.boxConditions]
      split_ifs <;> rfl
  have measurement : (topic.required?.toList.map Condition.notNull).filter
      (fun condition => decide (condition.column = .julianDay)) = [] := by
    cases topic <;> rfl
  simp only [Descriptor.dateConditions, Descriptor.ofTopic, List.filter_append, place, measurement]
  cases range <;> rfl

/-- A label asks nothing. -/
theorem dateConditions_withLabel (descriptor : Descriptor) (label : String) :
    (descriptor.withLabel label).dateConditions = descriptor.dateConditions := rfl

/-- A question's range is all that its descriptor asks of the Julian day. -/
theorem dateConditions_describe (question : String) (intent : Intent) :
    (Plan.describe question intent).dateConditions =
      (intent.range.map fun range => .between .julianDay range.min range.max .excluded).toList := by
  cases place : intent.location <;>
    simp only [Plan.describe, place, dateConditions_withLabel, dateConditions_ofTopic]

/-- Dates planned from a text are sound.

What the text says about the date names a year of this century or a month of the year or both. The
intent has a range exactly if a year is recognised, and the descriptor then tests the Julian day by
one condition, that it lies in the range and before its end, and by none otherwise. The range is
not empty and as many days long as the month that is recognised has, or else as the year. -/
theorem planned_dates_sound (gazetteer : Gazetteer) (text : String) :
    (∀ hint, DateHint.ofText? text = some hint → hint.IsSound) ∧
    (Intent.ofText gazetteer text).range.isSome =
      ((Intent.ofText gazetteer text).date.bind DateHint.year).isSome ∧
    (∀ question, (Plan.describe question (Intent.ofText gazetteer text)).dateConditions =
      ((Intent.ofText gazetteer text).range.map fun range =>
        .between .julianDay range.min range.max .excluded).toList) ∧
    ∀ hint year, (Intent.ofText gazetteer text).date = some hint → hint.year = some year →
      ∃ range, (Intent.ofText gazetteer text).range = some range ∧ range.min < range.max ∧
        (range.max - range.min).IsExactly (daysNamed year hint.month) := by
  refine ⟨fun _ => isSound_of_ofText?, ?_, fun question => dateConditions_describe question _, ?_⟩
  · simp only [Intent.ofText]
    cases found : DateHint.ofText? text with
    | none => rfl
    | some hint =>
      simp only [Option.bind_some]
      cases named : hint.year with
      | none => rw [range?_of_no_year named]; rfl
      | some year =>
        obtain ⟨range, defined, -⟩ := range?_of_year (isSound_of_ofText? found) named
        rw [defined]
        rfl
  · intro hint year found named
    simp only [Intent.ofText] at found
    obtain ⟨range, defined, length⟩ := range?_of_year (isSound_of_ofText? found) named
    refine ⟨range, ?_, length⟩
    simp only [Intent.ofText, found, Option.bind_some, defined]

/-- A question for a month of a leap year. -/
theorem planned_dates_leap_month :
    DateHint.ofText? "Salinity in FEB 2024" = some ⟨some 2024, some 2⟩ ∧
      DateHint.IsSound ⟨some 2024, some 2⟩ ∧ daysNamed 2024 (some 2) = 29 ∧
      ∃ range, (Intent.ofText Gazetteer.builtin "Salinity in FEB 2024").range = some range ∧
        range.min < range.max ∧
          (range.max - range.min).IsExactly (daysNamed 2024 (some 2)) := by
  have read : DateHint.ofText? "Salinity in FEB 2024" = some ⟨some 2024, some 2⟩ := by
    decide +kernel
  have sound := planned_dates_sound Gazetteer.builtin "Salinity in FEB 2024"
  exact ⟨read, sound.1 _ read, rfl, sound.2.2.2 ⟨some 2024, some 2⟩ 2024 read rfl⟩

end ArgoQuery
