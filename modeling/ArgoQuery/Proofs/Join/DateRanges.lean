import ArgoQuery.Proofs.Calendar.MonthRanges
import ArgoQuery.Proofs.Calendar.Tilings
import ArgoQuery.Proofs.Join.InnerJoin

/-!
# Date ranges split the result

Where no two stored positions share a key, a date range only selects among the rows that a question
without one would have: `rows_dated`. Then it follows from the ranges alone that the rows for a
range are those for its two parts, and the rows for a year those for its months. Main statement:
`execute_splits_dates`.

All of this is about questions that have results. A year can have so many rows that the final sort
finds its order contradicting itself, where the months have too few: `execute_stops_on_whole_range`.

Where positions share a key the statement fails: of several positions of a cycle the last one in the
range counts, so a measurement can have a row in each of two parts and only one in the whole.
-/

namespace ArgoQuery

namespace Join

open Calendar (JulianRange startOf startOf_le_startOf)
open Geography (GeoBox)

/-- Whether the day of a row lies in a range. -/
def isDated (range : JulianRange) (row : Row) : Bool :=
  (row.number? Column.julianDay.name).any range.contains

/-- No row is dated in two ranges of which one ends before the other begins. -/
theorem isDated_apart {first second : JulianRange} (before : first.max ≤ second.min) {row : Row}
    (early : isDated first row = true) : isDated second row = false := by
  rw [isDated] at early ⊢
  cases day : row.number? Column.julianDay.name with
  | none => rfl
  | some day' =>
    rw [day, Option.any_some] at early
    exact JulianRange.contains_apart before early

/-- No row is selected by two ranges of which one ends before the other begins. -/
theorem disjoint_filter_isDated {first second : JulianRange} (before : first.max ≤ second.min)
    (rows : List Row) :
    (rows.filter (isDated first)).Disjoint (rows.filter (isDated second)) := by
  intro row early late
  have outside := isDated_apart before (List.mem_filter.mp early).2
  rw [(List.mem_filter.mp late).2] at outside
  cases outside

/-- The rows dated in a range are those dated in its two parts. -/
theorem filter_isDated_split {low middle high : Binary64} (lower : low ≤ middle)
    (upper : middle ≤ high) (rows : List Row) :
    (rows.filter (isDated ⟨low, high⟩)).Perm
      (rows.filter (isDated ⟨low, middle⟩) ++ rows.filter (isDated ⟨middle, high⟩)) := by
  have split (row : Row) : isDated ⟨low, high⟩ row =
      (isDated ⟨low, middle⟩ row || isDated ⟨middle, high⟩ row) := by
    simp only [isDated]
    cases row.number? Column.julianDay.name with
    | none => rfl
    | some day => exact JulianRange.contains_split lower upper day
  have middle_le : middle ≤ middle := ⟨upper.1, upper.1, Int.le_refl _⟩
  have first : (rows.filter (isDated ⟨low, high⟩)).filter (isDated ⟨low, middle⟩) =
      rows.filter (isDated ⟨low, middle⟩) := by
    rw [List.filter_filter]
    refine List.filter_congr fun row _ => ?_
    rw [split]
    cases isDated ⟨low, middle⟩ row <;> rfl
  have second : (rows.filter (isDated ⟨low, high⟩)).filter
      (fun row => !isDated ⟨low, middle⟩ row) = rows.filter (isDated ⟨middle, high⟩) := by
    rw [List.filter_filter]
    refine List.filter_congr fun row _ => ?_
    rw [split]
    cases early : isDated ⟨low, middle⟩ row with
    | false => rfl
    | true => exact (isDated_apart middle_le early).symm
  rw [← first, ← second]
  exact (List.filter_append_perm ..).symm

/-- The rows dated in the first months of a year are those dated in each of them. -/
theorem filter_isDated_months (year : Int) (rows : List Row) {count : Nat} (within : count ≤ 12) :
    (rows.filter (isDated ⟨startOf year 1, startOf year (count + 1)⟩)).Perm
      ((List.range' 1 count).flatMap fun month =>
        rows.filter (isDated ⟨startOf year month, startOf year (month + 1)⟩)) := by
  induction count with
  | zero =>
    let none_yet : JulianRange := ⟨startOf year 1, startOf year 1⟩
    have empty : rows.filter (isDated none_yet) = [] := by
      have same : none_yet.max ≤ none_yet.min :=
        startOf_le_startOf year (Nat.le_refl 1) (Nat.le_refl 1) (by decide)
      refine List.eq_nil_iff_forall_not_mem.mpr ?_
      intro row member
      exact disjoint_filter_isDated same rows member member
    rw [empty]
    exact List.Perm.refl _
  | succ count ih =>
    have lower : startOf year 1 ≤ startOf year (count + 1) :=
      startOf_le_startOf year (Nat.le_refl 1) (Nat.le_add_left 1 count) (by omega)
    have upper : startOf year (count + 1) ≤ startOf year (count + 1 + 1) :=
      startOf_le_startOf year (Nat.le_add_left 1 count) (Nat.le_succ _) (by omega)
    have last : List.range' 1 (count + 1) = List.range' 1 count ++ [count + 1] := by
      rw [List.range'_concat, Nat.one_mul, Nat.add_comm]
    rw [last, List.flatMap_append, List.flatMap_singleton]
    exact (filter_isDated_split lower upper rows).trans ((ih (by omega)).append_right _)

/-- Where no two rows share a key, the last row of a key is the only one that has it. -/
theorem CycleKey.last?_eq_some_iff {key : CycleKey} {rows : List Row} {row : Row}
    (distinct : (rows.filterMap ofRow?).Nodup) :
    key.last? rows = some row ↔ row ∈ rows ∧ ofRow? row = some key := by
  let same := rows.filter fun row => ofRow? row = some key
  have few : same.length ≤ 1 := by
    have keys : same.filterMap ofRow? = List.replicate same.length key := by
      refine List.eq_replicate_iff.mpr ⟨?_, ?_⟩
      · refine List.filterMap_length_eq_length.mpr ?_
        intro row member
        rw [of_decide_eq_true (List.mem_filter.mp member).2]
        rfl
      · intro other member
        obtain ⟨row, found, own⟩ := List.mem_filterMap.mp member
        rw [of_decide_eq_true (List.mem_filter.mp found).2] at own
        exact (Option.some.inj own).symm
    have once : (List.replicate same.length key).Nodup :=
      keys ▸ distinct.sublist (List.filter_sublist.filterMap _)
    exact List.nodup_replicate.mp once
  have among : row ∈ rows ∧ ofRow? row = some key ↔ row ∈ same := by
    rw [List.mem_filter, decide_eq_true_eq]
  rw [among, last?]
  change same.getLast? = some row ↔ row ∈ same
  rcases Nat.le_one_iff_eq_zero_or_eq_one.mp few with none_has | one_has
  · simp [List.length_eq_zero_iff.mp none_has]
  · obtain ⟨only, single⟩ := List.length_eq_one_iff.mp one_has
    simp [single, eq_comm]

/-- Where no two positions share a key, a measurement is paired with one of a selection if it is
paired with one of the whole, and that one is selected. -/
theorem match?_of_perm_filter {positions selected : List Row} {keep : Row → Bool}
    (distinct : (positions.filterMap CycleKey.ofRow?).Nodup)
    (perm : selected.Perm (positions.filter keep)) (measurement : Row) :
    NestedLoop.match? selected measurement =
      (NestedLoop.match? positions measurement).filter fun pair => keep pair.2 := by
  have distinct' : (selected.filterMap CycleKey.ofRow?).Nodup :=
    (perm.filterMap _).nodup_iff.mpr (distinct.sublist (List.filter_sublist.filterMap _))
  rw [NestedLoop.match?, NestedLoop.match?]
  cases CycleKey.ofRow? measurement with
  | none => rfl
  | some key =>
    have last : key.last? selected = (key.last? positions).filter keep := by
      refine Option.ext fun row => ?_
      rw [CycleKey.last?_eq_some_iff distinct', Option.filter_eq_some_iff,
        CycleKey.last?_eq_some_iff distinct, perm.mem_iff, List.mem_filter]
      exact and_right_comm
    change ((key.last? selected).bind fun position => some (measurement, position)) =
      ((key.last? positions).bind fun position => some (measurement, position)).filter _
    rw [last]
    cases key.last? positions with
    | none => rfl
    | some position => cases kept : keep position <;> simp [Option.filter_some, kept]

section Dated

variable (collections : List (String × List Row)) (names : CollectionNames) (topic : Topic)
  (box : Option GeoBox)

/-- A position is what a question about a range is about if it is so without the range, and its day
lies in it. -/
theorem wanted_dated (range : JulianRange) (row : Row) :
    NestedLoop.wanted topic box (some range) .locations row =
      (NestedLoop.wanted topic box none .locations row && isDated range row) := by
  have day : (row.number? Column.julianDay.name).any (fun day =>
      decide (range.min ≤ day ∧ day < range.max)) = isDated range row := by
    refine congrArg (Option.any · _) (funext fun day => ?_)
    rw [JulianRange.contains, Bool.decide_and]
  simp only [NestedLoop.wanted, Option.all_some, Option.all_none, Bool.and_true, day]

/-- The rows of a question without a range, by definition. -/
def undatedRows : List Row :=
  let store : MemoryStore := { collections }
  (NestedLoop.pairs (NestedLoop.wanted topic box none) (store.rowsOf names.locations)
    (store.rowsOf names.measurements)).map
      (NestedLoop.joined (Descriptor.ofTopic topic none none).projection)

/-- The rows of a question about a date range are those that the question has without the range and
that have their day in it. No two positions share a key, so each measurement has the same position
whether the range is asked for or not, as long as that position lies in it. -/
theorem rows_dated
    (distinct : ((MemoryStore.rowsOf { collections } names.locations).filterMap
      CycleKey.ofRow?).Nodup)
    {range : JulianRange} {concurrency : Nat} {schedule : Schedule} {outcome : Outcome}
    (success : (MemoryStore.join { collections } names concurrency schedule
      (Descriptor.ofTopic topic box (some range))).result = .ok outcome) :
    outcome.rows.Perm ((undatedRows collections names topic box).filter (isDated range)) := by
  let positions := (MemoryStore.rowsOf { collections } names.locations).filter
    (NestedLoop.wanted topic box none .locations)
  let projection := (Descriptor.ofTopic topic box (some range)).projection
  obtain ⟨returned, -, selection, rows⟩ := rows_perm_of_join success
  have kept : (returned.filter (NestedLoop.wanted topic box (some range) .locations)).Perm
      (positions.filter (isDated range)) := by
    refine selection.trans (List.Perm.of_eq ?_)
    rw [List.filter_filter]
    exact List.filter_congr fun row _ => (wanted_dated topic box range row).trans (Bool.and_comm ..)
  have dated (pair : Row × Row) :
      isDated range (NestedLoop.joined projection pair) = isDated range pair.2 := by
    have projected : Column.julianDay ∈ projection := List.mem_append_right _ (by decide)
    rw [isDated, Row.number?, get?_joined projected rfl]
    rfl
  have selected : NestedLoop.match?
      (returned.filter (NestedLoop.wanted topic box (some range) .locations)) =
      fun measurement => (NestedLoop.match? positions measurement).filter
        fun pair => isDated range pair.2 :=
    funext (match?_of_perm_filter (distinct.sublist (List.filter_sublist.filterMap _)) kept)
  refine rows.trans (List.Perm.of_eq ?_)
  rw [NestedLoop.pairs, selected, ← List.filter_filterMap, undatedRows, List.filter_map]
  refine congrArg (List.map _) (List.filter_congr fun pair _ => ?_)
  exact (dated pair).symm

/-- The rows for a range are those for its two parts, and the rows for a year are those for its
months, none of them twice. Each of the questions is asked by itself, with any number of concurrent
fetches that end in any order.

A question that has no result has none because its rows cannot be sorted. All of them have one over
an orderly store.

The selection by days leaves the rest of a question alone, so both statements are about one list of
rows and the days at which the parts meet. -/
theorem execute_splits_dates
    (distinct : ((MemoryStore.rowsOf { collections } names.locations).filterMap
      CycleKey.ofRow?).Nodup)
    (concurrency : Nat → Nat) (schedule : Nat → Schedule) :
    let store : MemoryStore := { collections }
    let ask (number : Nat) (range : JulianRange) : Except Failure Outcome :=
      (store.join names (concurrency number) (schedule number)
        (Descriptor.ofTopic topic box (some range))).result
    (∀ low middle high : Binary64, low ≤ middle → middle ≤ high →
      ∀ whole first second,
        ask 0 ⟨low, high⟩ = .ok whole → ask 1 ⟨low, middle⟩ = .ok first →
        ask 2 ⟨middle, high⟩ = .ok second →
        whole.rows.Perm (first.rows ++ second.rows) ∧ first.rows.Disjoint second.rows) ∧
    (∀ year range, JulianRange.ofYear? year = some range →
      ∃ days : Nat → JulianRange,
        (∀ month, 1 ≤ month → month ≤ 12 → JulianRange.ofMonth? year month = some (days month)) ∧
        ∀ (whole : Outcome) (monthly : Nat → Outcome), ask 0 range = .ok whole →
          (∀ month, 1 ≤ month → month ≤ 12 → ask month (days month) = .ok (monthly month)) →
          whole.rows.Perm ((List.range' 1 12).flatMap fun month => (monthly month).rows) ∧
          ∀ month later, 1 ≤ month → month < later → later ≤ 12 →
            (monthly month).rows.Disjoint (monthly later).rows) ∧
    (∀ number range failure, ask number range = .error failure → failure = .disorder) ∧
    (store.IsOrderly names → ∀ number range, ∃ outcome, ask number range = .ok outcome) := by
  intro store ask
  let rows := undatedRows collections names topic box
  have apart {number number' : Nat} {first second : JulianRange} {early late : Outcome}
      (answered : ask number first = .ok early) (answered' : ask number' second = .ok late)
      (before : first.max ≤ second.min) : early.rows.Disjoint late.rows := by
    intro row isEarly isLate
    exact disjoint_filter_isDated before rows
      ((rows_dated collections names topic box distinct answered).mem_iff.mp isEarly)
      ((rows_dated collections names topic box distinct answered').mem_iff.mp isLate)
  refine ⟨?_, ?_, fun _ _ _ => MemoryStore.failure_of_join,
    fun orderly _ _ => isOk_join_of_isOrderly orderly⟩
  · intro low middle high lower upper whole first second answered answered' answered''
    refine ⟨?_, apart answered' answered'' ⟨upper.1, upper.1, Int.le_refl _⟩⟩
    have selected := rows_dated collections names topic box distinct answered
    have selected' := rows_dated collections names topic box distinct answered'
    have selected'' := rows_dated collections names topic box distinct answered''
    exact selected.trans ((filter_isDated_split lower upper rows).trans
      (selected'.symm.append selected''.symm))
  · intro year range defined
    obtain ⟨covered, rfl⟩ := Calendar.ofYear?_eq_some_iff.mp defined
    let days (month : Nat) : JulianRange := ⟨startOf year month, startOf year (month + 1)⟩
    refine ⟨days, fun month first last => Calendar.ofMonth?_of_covered covered first last, ?_⟩
    intro whole monthly answered answeredMonthly
    constructor
    · have selected := rows_dated collections names topic box distinct answered
      refine selected.trans ((filter_isDated_months year rows (Nat.le_refl 12)).trans ?_)
      refine List.Perm.flatMap_left _ fun month member => ?_
      obtain ⟨first, last⟩ := List.mem_range'_1.mp member
      exact (rows_dated collections names topic box distinct
        (answeredMonthly month first (by omega))).symm
    · intro month later first before last
      exact apart (answeredMonthly month first (by omega)) (answeredMonthly later (by omega) last)
        (startOf_le_startOf year (Nat.le_add_left 1 month) before (by omega))

end Dated

/-- Of two measurements the first was taken on the last day of February and the second on the first
day of March. -/
theorem execute_around_march :
    let position (cycle day : Int64) : Row := .ofList [("float_id", .text "1"),
      ("cycle_number", .int cycle), ("latitude", .int 10), ("longitude", .int 70),
      ("juld", .int day)]
    let measurement (cycle : Int64) : Row := .ofList [("float_id", .text "1"),
      ("cycle_number", .int cycle), ("pres_adjusted", .int 5), ("psal_adjusted", .int 35)]
    let store : MemoryStore := { collections := [
      ("float_locations", [position 1 2460004, position 2 2460005]),
      ("float_measurements", [measurement 1, measurement 2])] }
    let ask (range : JulianRange) : Except Failure Outcome :=
      (store.join {} 1 oldestFirst (Descriptor.ofTopic .salinity none (some range))).result
    ((store.rowsOf "float_locations").filterMap CycleKey.ofRow?).Nodup ∧
      (2459946 : Binary64) ≤ 2460005 ∧ (2460005 : Binary64) ≤ 2460311 ∧
      JulianRange.ofYear? 2023 = some ⟨2459946, 2460311⟩ ∧
      (∃ whole first second, ask ⟨2459946, 2460311⟩ = .ok whole ∧
        ask ⟨2459946, 2460005⟩ = .ok first ∧ ask ⟨2460005, 2460311⟩ = .ok second ∧
        whole.rows.Perm (first.rows ++ second.rows) ∧
        first.rows.length = 1 ∧ second.rows.length = 1) ∧
      ∃ whole, ∃ monthly : Nat → Outcome, ask ⟨2459946, 2460311⟩ = .ok whole ∧
        whole.rows.Perm ((List.range' 1 12).flatMap fun month => (monthly month).rows) := by
  intro position measurement store ask
  have distinct : ((store.rowsOf "float_locations").filterMap CycleKey.ofRow?).Nodup := by
    decide +kernel
  have lower : (2459946 : Binary64) ≤ 2460005 := by decide +kernel
  have upper : (2460005 : Binary64) ≤ 2460311 := by decide +kernel
  have year : JulianRange.ofYear? 2023 = some ⟨2459946, 2460311⟩ := by decide +kernel
  obtain ⟨parts, months, -, succeed⟩ := execute_splits_dates store.collections {} .salinity none
    distinct (fun _ => 1) (fun _ => oldestFirst)
  replace succeed : ∀ number range, ∃ outcome, ask range = .ok outcome :=
    succeed fun side => by cases side <;> decide +kernel
  choose outcome answered using succeed 0
  obtain ⟨days, -, add⟩ := months _ _ year
  have split := (parts _ _ _ lower upper _ _ _ (answered _) (answered _) (answered _)).1
  have added := (add _ (fun month => outcome (days month)) (answered _)
    fun month _ _ => answered (days month)).1
  have february : (ask ⟨2459946, 2460005⟩).map (fun outcome => outcome.rows.length) = .ok 1 := by
    decide +kernel
  have march : (ask ⟨2460005, 2460311⟩).map (fun outcome => outcome.rows.length) = .ok 1 := by
    decide +kernel
  rw [answered] at february march
  exact ⟨distinct, lower, upper, year, ⟨_, _, _, answered _, answered _, answered _, split,
    Except.ok.inj february, Except.ok.inj march⟩, _, _, answered _, added⟩

/-- Three measurements of each of seven floats, of which three were at their positions on the last
day of February and four on the first day of March. The rows of the two parts can be sorted. Of the
rows of the whole year the final sort finds that their order contradicts itself. -/
theorem execute_stops_on_whole_range :
    let position (day : Int64) (float : String) : Row := .ofList [("float_id", .text float),
      ("cycle_number", .int 1), ("latitude", .int 10), ("longitude", .int 70), ("juld", .int day)]
    let measurement (float : String) (depth : Int64) : Row := .ofList [("float_id", .text float),
      ("cycle_number", .int 1), ("pres_adjusted", .int depth), ("psal_adjusted", .int 35)]
    let early := ["10", "2", "2b"]
    let late := ["3", "7", "8", "9"]
    let store : MemoryStore := { collections := [
      ("float_locations", early.map (position 2460004) ++ late.map (position 2460005)),
      ("float_measurements",
        (early ++ late).flatMap fun float => [5, 10, 15].map (measurement float))] }
    let ask (range : JulianRange) : Except Failure Outcome :=
      (store.join {} 1 oldestFirst (Descriptor.ofTopic .salinity none (some range))).result
    ((store.rowsOf "float_locations").filterMap CycleKey.ofRow?).Nodup ∧
      ask ⟨2459946, 2460311⟩ = .error .disorder ∧
      ((ask ⟨2459946, 2460005⟩).map fun outcome => outcome.rows.length) = .ok 9 ∧
      ((ask ⟨2460005, 2460311⟩).map fun outcome => outcome.rows.length) = .ok 12 := by
  decide +kernel

end Join

end ArgoQuery
