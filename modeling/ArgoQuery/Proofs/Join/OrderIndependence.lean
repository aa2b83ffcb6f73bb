import ArgoQuery.Proofs.Join.Execution
import ArgoQuery.Proofs.Table.RowOrder
import ArgoQuery.Table.Memory

/-!
# The order in which fetches end

How many floats are fetched at a time and in which order their fetches end is left to chance. Main
statement: `execute_order_irrelevant`. Two executions on one store that have results have the same
rows with the same statistics. The sequence of the rows depends on chance only through the final
sort: if that tells the rows of any two floats apart, both executions have one sequence, and it
ascends.

Chance can also decide whether there is a result. Where the comparison of rows contradicts itself,
the final sort notices it in some sequences of the rows and not in others:
`execute_stops_in_one_order`. It never does where the columns of the ordering are homogeneous.

The sort is fed the rows float by float, so chance permutes whole groups of rows. A stable sort does
not notice if no row of one group is tied with a row of another.
-/

namespace ArgoQuery.Join

/-- Both failed for one reason, or both have the same rows and the same statistics. -/
def SameAnswer : Except Failure Outcome → Except Failure Outcome → Prop
  | .ok one, .ok other => one.rows.Perm other.rows ∧ one.statistics = other.statistics
  | .error one, .error other => one = other
  | _, _ => False

section Order

variable (store : Store) (names : CollectionNames) (descriptor : Descriptor)

/-- The ordering tells every row of one float from every row of another. -/
def TellsFloatsApart : Prop :=
  ∀ one ∈ queried store names descriptor, ∀ other ∈ queried store names descriptor, one ≠ other →
    ∀ row ∈ contribution store names descriptor one,
      ∀ row' ∈ contribution store names descriptor other,
        Row.compareBy (orderingNames descriptor) row row' ≠ .eq

instance : Decidable (TellsFloatsApart store names descriptor) :=
  inferInstanceAs (Decidable (∀ one ∈ _, ∀ other ∈ _, one ≠ other → _))

end Order

section Sequence

variable {store : Store} {names : CollectionNames} {descriptor : Descriptor}

/-- A result is the same as itself. -/
theorem SameAnswer.refl (answer : Except Failure Outcome) : SameAnswer answer answer := by
  cases answer with
  | ok outcome => exact ⟨List.Perm.refl _, rfl⟩
  | error failure => exact rfl

/-- Rows under whose ordering they are homogeneous ascend when they are sorted. -/
theorem sort?_ascends {columns : List String} {rows sorted : List Row}
    (homogeneous : ∀ column ∈ columns, Row.IsHomogeneous column rows)
    (sorting : Row.sort? columns rows = some sorted) :
    sorted.Pairwise fun left right => Row.compareBy columns left right ≠ .gt := by
  obtain ⟨result, done, arranged⟩ := Sorting.sort?_arranges
    (Row.isOrderOn_of_homogeneous homogeneous) rows fun _ member => member
  obtain rfl := Option.some.inj (sorting.symm.trans done)
  exact arranged.inOrder.imp Row.comesBefore_eq_false.mp

/-- Two orders of the floats give one sequence of rows, if the ordering is homogeneous on the rows
and tells the rows of the floats apart. -/
theorem sort?_flatMap_eq {first second : List String}
    (one : first.Perm (queried store names descriptor))
    (other : second.Perm (queried store names descriptor))
    (homogeneous : ∀ column ∈ orderingNames descriptor,
      Row.IsHomogeneous column (first.flatMap (contribution store names descriptor)))
    (apart : TellsFloatsApart store names descriptor) :
    Row.sort? (orderingNames descriptor) (second.flatMap (contribution store names descriptor)) =
      Row.sort? (orderingNames descriptor)
        (first.flatMap (contribution store names descriptor)) := by
  have order := Row.isOrderOn_of_homogeneous homogeneous
  have perm : first.Perm second := one.trans other.symm
  have untied (float : String) (member : float ∈ queried store names descriptor) (float' : String)
      (member' : float' ∈ queried store names descriptor) (different : float ≠ float') (row : Row)
      (ofFloat : row ∈ contribution store names descriptor float) (row' : Row)
      (ofFloat' : row' ∈ contribution store names descriptor float') :
      Sorting.tied (Row.comesBefore (orderingNames descriptor)) row row' = false := by
    rw [← Bool.not_eq_true, Row.tied_comesBefore]
    exact apart float member float' member' different row ofFloat row' ofFloat'
  refine Sorting.sort?_eq_of_keepsTies order (fun _ member => member)
    (perm.symm.flatMap_right _) ?_
  have known : ∀ float ∈ first, float ∈ first := fun _ member => member
  refine Sorting.KeepsTies.flatMap_perm order ?_ ?_ perm (one.symm.nodup queried_nodup) known
  · intro float member row ofFloat
    exact List.mem_flatMap.mpr ⟨float, member, ofFloat⟩
  · intro float float' member member' different row ofFloat row' ofFloat'
    exact untied float (one.mem_iff.mp member) float' (one.mem_iff.mp member') different row ofFloat
      row' ofFloat'

/-- The outcome of one order of the floats is that of every other order that has an outcome, up to
the sequence of its rows. -/
theorem sameOutcome_of_resultOf {first second : List String} {outcome outcome' : Outcome}
    (perm : first.Perm (queried store names descriptor))
    (perm' : second.Perm (queried store names descriptor))
    (success : resultOf store names descriptor first = .ok outcome)
    (success' : resultOf store names descriptor second = .ok outcome') :
    outcome.rows.Perm outcome'.rows ∧ outcome.statistics = outcome'.statistics := by
  refine ⟨(rows_perm_of_resultOf perm success).trans (rows_perm_of_resultOf perm' success').symm,
    ?_⟩
  rw [(resultOf_eq_ok_iff.mp success).2, (resultOf_eq_ok_iff.mp success').2]
  exact statisticsOf_perm store names descriptor (perm.trans perm'.symm)

/-- The outcome of one order of the floats is that of every other order, with its rows in sequence,
if the ordering is homogeneous on the rows and tells the rows of the floats apart. -/
theorem resultOf_eq_of_tellsFloatsApart {first second : List String} {outcome : Outcome}
    (perm : first.Perm (queried store names descriptor))
    (perm' : second.Perm (queried store names descriptor))
    (success : resultOf store names descriptor first = .ok outcome)
    (homogeneous : ∀ column ∈ orderingNames descriptor, Row.IsHomogeneous column outcome.rows)
    (apart : TellsFloatsApart store names descriptor) :
    resultOf store names descriptor second = .ok outcome ∧
      outcome.rows.Pairwise fun left right =>
        Row.compareBy (orderingNames descriptor) left right ≠ .gt := by
  obtain ⟨sorting, counted⟩ := resultOf_eq_ok_iff.mp success
  have unsorted : ∀ column ∈ orderingNames descriptor,
      Row.IsHomogeneous column (first.flatMap (contribution store names descriptor)) :=
    fun column member => (homogeneous column member).perm (Sorting.sort?_perm _ sorting)
  refine ⟨resultOf_eq_ok_iff.mpr ⟨?_, ?_⟩, sort?_ascends unsorted sorting⟩
  · exact (sort?_flatMap_eq perm perm' unsorted apart).trans sorting
  · exact counted.trans (statisticsOf_perm store names descriptor (perm.trans perm'.symm))

/-- Neither the number of concurrent fetches nor the order in which they end changes why the driving
side of a join fails, which rows a join has, how often it has each, or its statistics, as long as
the rows can be sorted. If every column of the ordering treats all rows that the floats contribute
alike, they can be, and both joins have the same answer.

If moreover the ordering tells the rows of different floats apart, then the rows come in the same
sequence, and no row is greater than a later one.

Either result is that of an order of the floats, so all four parts are about two such orders. -/
theorem execute_order_irrelevant (store : Store) (names : CollectionNames)
    (descriptor : Descriptor) (concurrency concurrency' : Nat) (schedule schedule' : Schedule) :
    let one := (execute store names concurrency schedule descriptor).result
    let other := (execute store names concurrency' schedule' descriptor).result
    (∀ outcome outcome', one = .ok outcome → other = .ok outcome' →
        outcome.rows.Perm outcome'.rows ∧ outcome.statistics = outcome'.statistics) ∧
      (∀ failure, failure ≠ .disorder → (one = .error failure ↔ other = .error failure)) ∧
      ((∀ column ∈ orderingNames descriptor, Row.IsHomogeneous column
          ((queried store names descriptor).flatMap (contribution store names descriptor))) →
        one ≠ .error .disorder ∧ SameAnswer one other) ∧
      ∀ outcome, one = .ok outcome →
        (∀ column ∈ orderingNames descriptor, Row.IsHomogeneous column outcome.rows) →
        TellsFloatsApart store names descriptor →
        other = .ok outcome ∧
          outcome.rows.Pairwise fun left right =>
            Row.compareBy (orderingNames descriptor) left right ≠ .gt := by
  intro one other
  cases answered : store (drivingSelect names descriptor) with
  | error cause =>
    have failed : one = .error (.store (names.ofSide descriptor.driving) cause) :=
      (execute_error answered concurrency schedule).1
    have failed' : other = .error (.store (names.ofSide descriptor.driving) cause) :=
      (execute_error answered concurrency' schedule').1
    rw [failed, failed']
    refine ⟨?_, fun _ _ => Iff.rfl, fun _ => ⟨by simp, SameAnswer.refl _⟩, ?_⟩
    · intro outcome outcome' success
      cases success
    · intro outcome success
      cases success
  | ok fetched =>
    obtain ⟨first, perm, result⟩ := execute_ok answered concurrency schedule
    obtain ⟨second, perm', result'⟩ := execute_ok answered concurrency' schedule'
    have ofFirst : one = resultOf store names descriptor first := result
    have ofSecond : other = resultOf store names descriptor second := result'
    rw [ofFirst, ofSecond]
    refine ⟨fun _ _ => sameOutcome_of_resultOf perm perm', ?_, ?_,
      fun _ => resultOf_eq_of_tellsFloatsApart perm perm'⟩
    · intro failure ordered
      exact iff_of_false (fun failed => ordered (eq_disorder_of_resultOf failed))
        fun failed => ordered (eq_disorder_of_resultOf failed)
    · intro homogeneous
      obtain ⟨outcome, success⟩ := isOk_resultOf_of_homogeneous perm homogeneous
      obtain ⟨outcome', success'⟩ := isOk_resultOf_of_homogeneous perm' homogeneous
      rw [success, success']
      exact ⟨by simp, sameOutcome_of_resultOf perm perm' success success'⟩

end Sequence

/-- Two floats with three rows, once fetched one after the other and once at the same time, when the
fetch of float 2 ends before that of float 10. -/
theorem execute_two_floats :
    let position (float : String) : Row := .ofList [("float_id", .text float),
      ("cycle_number", .int 1), ("latitude", .int 10), ("longitude", .int 70)]
    let measurement (float : String) (depth : Int64) : Row := .ofList [("float_id", .text float),
      ("cycle_number", .int 1), ("pres_adjusted", .int depth), ("psal_adjusted", .int 35)]
    let store := MemoryStore.toStore { collections := [
      ("float_locations", [position "10", position "2"]),
      ("float_measurements", [measurement "10" 5, measurement "2" 5, measurement "2" 3])] }
    let descriptor := Descriptor.ofTopic .salinity none none
    let joined (float : String) (depth : Int64) : Row := .ofList [("float_id", .text float),
      ("cycle_number", .int 1), ("pres_adjusted", .int depth), ("psal_adjusted", .int 35),
      ("latitude", .int 10), ("longitude", .int 70), ("juld", .null)]
    let outcome : Outcome :=
      { rows := [joined "2" 3, joined "2" 5, joined "10" 5]
        statistics := {
          drivingFetched := 2
          drivingKept := 2
          distinctKeys := 2
          duplicateKeys := 0
          floatsQueried := 2
          floatsFailed := []
          dependentFetched := 3
          dependentRetained := 3
          rowsMerged := 3
          stage := .done } }
    (execute store {} 1 oldestFirst descriptor).result = .ok outcome ∧
      (∀ column ∈ orderingNames descriptor, Row.IsHomogeneous column outcome.rows) ∧
      TellsFloatsApart store {} descriptor ∧
      (execute store {} 2 (fun _ => 1) descriptor).result = .ok outcome := by
  intro position measurement store descriptor joined outcome
  have first : (execute store {} 1 oldestFirst descriptor).result = .ok outcome := by
    decide +kernel
  have homogeneous : ∀ column ∈ orderingNames descriptor,
      Row.IsHomogeneous column outcome.rows := by decide +kernel
  have apart : TellsFloatsApart store {} descriptor := by decide +kernel
  obtain ⟨-, -, -, sequence⟩ :=
    execute_order_irrelevant store {} descriptor 1 2 oldestFirst fun _ => 1
  exact ⟨first, homogeneous, apart, (sequence outcome first homogeneous apart).1⟩

/-- Three rows of each of seven floats, one of which has a name that is no number. When the floats
are fetched one after the other, the final sort finds that the order of the rows contradicts itself;
when the fetch of the first is overtaken by all others, it does not notice. -/
theorem execute_stops_in_one_order :
    let position (float : String) : Row := .ofList [("float_id", .text float),
      ("cycle_number", .int 1), ("latitude", .int 10), ("longitude", .int 70)]
    let measurement (float : String) (depth : Int64) : Row := .ofList [("float_id", .text float),
      ("cycle_number", .int 1), ("pres_adjusted", .int depth), ("psal_adjusted", .int 35)]
    let floats := ["10", "2", "2b", "3", "7", "8", "9"]
    let store := MemoryStore.toStore { collections := [("float_locations", floats.map position),
      ("float_measurements", floats.flatMap fun float => [5, 10, 15].map (measurement float))] }
    let descriptor := Descriptor.ofTopic .salinity none none
    (execute store {} 1 oldestFirst descriptor).result = .error .disorder ∧
      ((execute store {} 2 (fun _ => 1) descriptor).result.map fun outcome =>
        outcome.rows.length) = .ok 21 := by
  decide +kernel

end ArgoQuery.Join
