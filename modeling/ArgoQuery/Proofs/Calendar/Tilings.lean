import ArgoQuery.Calendar.JulianRange
import ArgoQuery.Proofs.Binary64.RoundedSums

/-!
# Ranges that lie one after the other

Two ranges that meet cover together what the range over both covers (`contains_split`), and no day
lies in both (`contains_apart`). By induction a row of ranges that meet counts every day of the
range over all of them once, and no other day: `Tiles.countP_contains`.
-/

namespace ArgoQuery.Calendar.JulianRange

section Two

variable {low middle high : Binary64}

/-- A day lies in a range if it lies in one of its parts. -/
theorem contains_split (lower : low ≤ middle) (upper : middle ≤ high) (day : Binary64) :
    contains ⟨low, high⟩ day = (contains ⟨low, middle⟩ day || contains ⟨middle, high⟩ day) := by
  obtain ⟨lowIs, middleIs, lower⟩ := lower
  obtain ⟨-, highIs, upper⟩ := upper
  rw [Bool.eq_iff_iff]
  simp only [contains, Bool.or_eq_true, Bool.and_eq_true, decide_eq_true_eq, Binary64.le_iff,
    Binary64.lt_iff, lowIs, middleIs, highIs, true_and]
  cases day.isNaN with
  | true => simp
  | false =>
    simp only [true_and]
    omega

/-- No day lies in two ranges of which one ends before the other begins. -/
theorem contains_apart {first second : JulianRange} (before : first.max ≤ second.min)
    {day : Binary64} (early : first.contains day = true) : second.contains day = false := by
  obtain ⟨-, -, before⟩ := before
  simp only [contains, Bool.and_eq_true, decide_eq_true_eq, Binary64.lt_iff] at early
  obtain ⟨-, -, -, inside⟩ := early
  refine Bool.and_eq_false_imp.mpr ?_
  intro late
  obtain ⟨-, -, outside⟩ := of_decide_eq_true late
  omega

end Two

/-- What is not a number lies in no range. -/
theorem contains_eq_false_of_isNaN (range : JulianRange) {day : Binary64}
    (nan : day.isNaN = true) : range.contains day = false := by
  refine Bool.and_eq_false_imp.mpr ?_
  intro late
  obtain ⟨-, number, -⟩ := of_decide_eq_true late
  rw [nan] at number
  cases number

/-- Whether ranges, none of them empty, lie one after the other from a day to another. -/
def Tiles : Binary64 → List JulianRange → Binary64 → Prop
  | low, [], high => low = high
  | low, part :: rest, high => part.min = low ∧ part.min < part.max ∧ Tiles part.max rest high

/-- A row of ranges ends no earlier than it begins. -/
theorem Tiles.le {low high : Binary64} {parts : List JulianRange} (tiles : Tiles low parts high)
    (number : low.isNaN = false) : low ≤ high := by
  induction parts generalizing low with
  | nil =>
    cases tiles
    exact ⟨number, number, Int.le_refl _⟩
  | cons part rest ih =>
    obtain ⟨rfl, ⟨number, number', order⟩, following⟩ := tiles
    exact Binary64.le_trans ⟨number, number', order.le⟩ (ih following number')

/-- Of a row of ranges one counts a day that lies between its ends, and none counts another. The
induction goes along the row. At its end there is a range that ends where it begins, and holds no
day; before that, a day of the first range is of no later one, as they begin where it ends. -/
theorem Tiles.countP_contains {low high : Binary64} {parts : List JulianRange}
    (tiles : Tiles low parts high) (day : Binary64) :
    parts.countP (·.contains day) = if contains ⟨low, high⟩ day then 1 else 0 := by
  induction parts generalizing low with
  | nil =>
    cases tiles
    have empty : contains ⟨high, high⟩ day = false := by
      by_contra inside
      have inside := eq_true_of_ne_false inside
      simp only [contains, Bool.and_eq_true, decide_eq_true_eq] at inside
      exact absurd inside.2.2.2 (Int.not_lt.mpr inside.1.2.2)
    rw [empty]
    rfl
  | cons part rest ih =>
    obtain ⟨rfl, ⟨number, number', order⟩, following⟩ := tiles
    have upper := following.le number'
    rw [List.countP_cons, ih following,
      contains_split ⟨number, number', order.le⟩ upper day]
    cases early : contains ⟨part.min, part.max⟩ day with
    | false => simp
    | true =>
      have apart : contains ⟨part.max, high⟩ day = false :=
        contains_apart ⟨number', number', Int.le_refl _⟩ early
      simp [apart]

end ArgoQuery.Calendar.JulianRange
