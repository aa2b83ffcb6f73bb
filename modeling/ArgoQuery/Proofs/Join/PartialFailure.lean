import ArgoQuery.Proofs.Join.MemoryFetches

/-!
# When fetches fail

A float whose fetch fails is left out, and nothing else changes. Two stores are compared that differ
in the failure of some floats only. Main statement: `execute_isolates_failures`. The result on the
failing store is that on the other without the rows of the failed floats, which are listed; all that
is known before the fetches is counted alike. A driving select that fails fails the whole join, and
then nothing else is asked.

The two joins sort different rows, so where the comparison of rows contradicts itself one of them
can stop the program and the other not: `execute_stops_without_one_float`.

The two executions may run their fetches in any two orders, and with any two limits.
-/

namespace ArgoQuery.Join

/-- A store that fails on the fetches of some floats, beside one that answers all of them and the
rest alike. -/
structure FailsOnly (names : CollectionNames) (descriptor : Descriptor) (failing : String → Bool)
    (sound broken : Store) : Prop where
  driving : broken (drivingSelect names descriptor) = sound (drivingSelect names descriptor)
  answered : ∀ float, ∃ rows, sound (dependentSelect names descriptor float) = .ok rows
  others : ∀ float, failing float = false →
    broken (dependentSelect names descriptor float) = sound (dependentSelect names descriptor float)
  failures : ∀ float, failing float = true →
    ∃ cause, broken (dependentSelect names descriptor float) = .error cause

section Isolation

variable {names : CollectionNames} {descriptor : Descriptor} {failing : String → Bool}
  {sound broken : Store}

namespace FailsOnly

/-- Both stores find the same driving rows. -/
theorem drivingRows_eq (only : FailsOnly names descriptor failing sound broken) :
    drivingRows broken names descriptor = drivingRows sound names descriptor := by
  rw [drivingRows, only.driving, drivingRows]

/-- Both stores leave the same driving rows. -/
theorem keptRows_eq (only : FailsOnly names descriptor failing sound broken) :
    keptRows broken names descriptor = keptRows sound names descriptor := by
  rw [keptRows, only.drivingRows_eq, keptRows]

/-- Both stores give one index. -/
theorem indexOf_eq (only : FailsOnly names descriptor failing sound broken) :
    indexOf broken names descriptor = indexOf sound names descriptor := by
  rw [indexOf, only.keptRows_eq, indexOf]

/-- The same floats are queried over both stores. -/
theorem queried_eq (only : FailsOnly names descriptor failing sound broken) :
    queried broken names descriptor = queried sound names descriptor := by
  rw [queried, only.indexOf_eq, queried]

/-- The reply to a float is a failure exactly if the float is a failing one. -/
theorem isFailure_replyOf (only : FailsOnly names descriptor failing sound broken)
    (float : String) : (replyOf broken names descriptor float).isFailure = failing float := by
  cases fails : failing float with
  | false =>
    obtain ⟨rows, answer⟩ := only.answered float
    rw [replyOf, only.others float fails, answer]
    rfl
  | true =>
    obtain ⟨cause, answer⟩ := only.failures float fails
    rw [replyOf, answer]
    rfl

/-- A float contributes nothing if its fetch fails, and otherwise what it contributes anyway. -/
theorem contribution_eq (only : FailsOnly names descriptor failing sound broken) (float : String) :
    contribution broken names descriptor float =
      if failing float then [] else contribution sound names descriptor float := by
  cases fails : failing float with
  | false =>
    rw [contribution, replyOf, only.others float fails, only.indexOf_eq]
    rfl
  | true =>
    obtain ⟨cause, answer⟩ := only.failures float fails
    rw [contribution, replyOf, answer]
    rfl

/-- The rows of all floats are those that come in spite of the failures and those of the failing
floats. -/
theorem flatMap_contribution (only : FailsOnly names descriptor failing sound broken)
    (order : List String) :
    (order.flatMap (contribution sound names descriptor)).Perm
      (order.flatMap (contribution broken names descriptor) ++
        (order.filter failing).flatMap (contribution sound names descriptor)) := by
  induction order with
  | nil => exact List.Perm.refl _
  | cons float rest ih =>
    rw [List.flatMap_cons, List.flatMap_cons, only.contribution_eq float]
    cases fails : failing float with
    | false =>
      rw [List.filter_cons_of_neg (by simp [fails]), List.append_assoc]
      exact ih.append_left _
    | true =>
      rw [List.filter_cons_of_pos fails, List.flatMap_cons, if_pos rfl, List.nil_append]
      exact (ih.append_left _).trans (List.perm_append_comm_assoc ..)

/-- The floats that are reported are the failing ones among those that are fetched, in ascending
order, whatever the order in which their fetches ended. -/
theorem floatsFailed_statisticsOf (only : FailsOnly names descriptor failing sound broken)
    {order : List String} (perm : order.Perm (queried broken names descriptor)) :
    (statisticsOf broken names descriptor order).floatsFailed =
      (queried sound names descriptor).filter failing := by
  rw [statisticsOf_floatsFailed perm, funext only.isFailure_replyOf, only.queried_eq]

/-- The rows that come in spite of the failures are among those of all floats. -/
theorem mem_of_mem_flatMap_contribution (only : FailsOnly names descriptor failing sound broken)
    {row : Row} (member : row ∈ (queried broken names descriptor).flatMap
      (contribution broken names descriptor)) :
    row ∈ (queried sound names descriptor).flatMap (contribution sound names descriptor) := by
  rw [only.queried_eq] at member
  exact (only.flatMap_contribution _).mem_iff.mpr (List.mem_append_left _ member)

end FailsOnly

/-- A store that is told to fail on some floats fails on their fetches, and answers the rest like
one that is not. -/
theorem failsOnly_toStore (store : MemoryStore) (available : store.failingCollections = []) :
    FailsOnly names descriptor (fun float => decide (float ∈ store.failingFloats))
      ({ collections := store.collections } : MemoryStore).toStore store.toStore where
  driving := MemoryStore.toStore_eq_of_sound (available ▸ List.not_mem_nil)
    (failingFloat?_drivingSelect store)
  answered float := ⟨_, MemoryStore.toStore_ok store.collections _⟩
  others float succeeds := by
    refine MemoryStore.toStore_eq_of_sound (available ▸ List.not_mem_nil) ?_
    rw [failingFloat?_dependentSelect, if_neg (of_decide_eq_false succeeds)]
  failures float fails := by
    rw [MemoryStore.toStore, MemoryStore.answer?, failingFloat?_dependentSelect, available,
      if_pos (of_decide_eq_true fails)]
    exact ⟨_, rfl⟩

/-- The failing store gives the rows of the other one without those of the failing floats, and names
exactly these among the floats that it was asked for. What was counted before the fetches is the
same, and so is the stage. Either join can fail for the order of its rows only, and neither does if
every column of the ordering treats all rows that the floats contribute alike.

Without an answer to the driving select there is nothing to isolate: the join fails with the
collection of the driving side, and no other select is made.

The driving sides agree, so both stores have one index and are asked for the same floats. That the
rows of all floats are those in spite of the failures and those of the failing floats is an
induction over the order in which the floats are answered. -/
theorem execute_isolates_failures (names : CollectionNames) (descriptor : Descriptor)
    (concurrency concurrency' : Nat) (schedule schedule' : Schedule) :
    (∀ (failing : String → Bool) (sound broken : Store) (fetched : List Row),
      FailsOnly names descriptor failing sound broken →
      sound (drivingSelect names descriptor) = .ok fetched →
      let ofSound := (execute sound names concurrency schedule descriptor).result
      let ofBroken := (execute broken names concurrency' schedule' descriptor).result
      (∀ whole part, ofSound = .ok whole → ofBroken = .ok part →
        whole.rows.Perm (part.rows ++
          ((queried sound names descriptor).filter failing).flatMap
            (contribution sound names descriptor)) ∧
        part.statistics.drivingFetched = whole.statistics.drivingFetched ∧
        part.statistics.drivingKept = whole.statistics.drivingKept ∧
        part.statistics.distinctKeys = whole.statistics.distinctKeys ∧
        part.statistics.duplicateKeys = whole.statistics.duplicateKeys ∧
        part.statistics.floatsQueried = whole.statistics.floatsQueried ∧
        part.statistics.stage = whole.statistics.stage ∧
        part.statistics.floatsFailed = (queried sound names descriptor).filter failing ∧
        part.statistics.floatsFailed.Pairwise (· < ·)) ∧
      (∀ failure, ofSound = .error failure ∨ ofBroken = .error failure → failure = .disorder) ∧
      ((∀ column ∈ orderingNames descriptor, Row.IsHomogeneous column
          ((queried sound names descriptor).flatMap (contribution sound names descriptor))) →
        ∃ whole part, ofSound = .ok whole ∧ ofBroken = .ok part)) ∧
    ∀ (store : Store) (cause : StoreError), store (drivingSelect names descriptor) = .error cause →
      (execute store names concurrency schedule descriptor).result =
          .error (.store (names.ofSide descriptor.driving) cause) ∧
        (execute store names concurrency schedule descriptor).selects =
          [drivingSelect names descriptor] := by
  constructor
  · intro failing sound broken fetched only answered ofSound ofBroken
    obtain ⟨order, perm, result⟩ := execute_ok answered concurrency schedule
    obtain ⟨order', perm', result'⟩ :=
      execute_ok (only.driving.trans answered) concurrency' schedule'
    replace result : ofSound = resultOf sound names descriptor order := result
    replace result' : ofBroken = resultOf broken names descriptor order' := result'
    rw [result, result']
    refine ⟨?_, ?_, ?_⟩
    · intro whole part success success'
      have rows : whole.rows.Perm (part.rows ++
          ((queried sound names descriptor).filter failing).flatMap
            (contribution sound names descriptor)) := by
        have all := (rows_perm_of_resultOf perm success).trans (only.flatMap_contribution _)
        have others := rows_perm_of_resultOf perm' success'
        rw [only.queried_eq] at others
        exact all.trans (others.symm.append_right _)
      have failed := only.floatsFailed_statisticsOf perm'
      have ordered : ((queried sound names descriptor).filter failing).Pairwise (· < ·) :=
        queried_ascending.filter failing
      rw [(resultOf_eq_ok_iff.mp success).2, (resultOf_eq_ok_iff.mp success').2]
      refine ⟨rows, ?_, ?_, ?_, ?_, ?_, ?_, failed, failed ▸ ordered⟩
      · exact congrArg List.length only.drivingRows_eq
      · exact congrArg List.length only.keptRows_eq
      · exact congrArg (fun index => index.positions.length) only.indexOf_eq
      · exact congrArg KeyIndex.duplicates only.indexOf_eq
      · exact congrArg (fun index => index.floats.length) only.indexOf_eq
      · exact congrArg (fun index => if index.positions.isEmpty then Stage.empty else Stage.done)
          only.indexOf_eq
    · rintro failure (failed | failed)
      · exact eq_disorder_of_resultOf failed
      · exact eq_disorder_of_resultOf failed
    · intro homogeneous
      obtain ⟨whole, success⟩ := isOk_resultOf_of_homogeneous perm homogeneous
      obtain ⟨part, success'⟩ := isOk_resultOf_of_homogeneous perm' fun column member =>
        (homogeneous column member).of_subset fun _ => only.mem_of_mem_flatMap_contribution
      exact ⟨whole, part, success, success'⟩
  · intro store cause refused
    exact execute_error refused concurrency schedule

end Isolation

/-- Of three floats the second one fails. Of a store without its locations nothing is left. -/
theorem execute_without_one_float :
    let position (float : String) : Row := .ofList [("float_id", .text float),
      ("cycle_number", .int 1), ("latitude", .int 10), ("longitude", .int 70)]
    let measurement (float : String) (depth : Int64) : Row := .ofList [("float_id", .text float),
      ("cycle_number", .int 1), ("pres_adjusted", .int depth), ("psal_adjusted", .int 35)]
    let collections := [("float_locations", [position "3", position "10", position "2"]),
      ("float_measurements", [measurement "10" 5, measurement "2" 5, measurement "3" 3])]
    let sound := MemoryStore.toStore { collections }
    let broken := MemoryStore.toStore { collections, failingFloats := ["2"] }
    let closed := MemoryStore.toStore { collections, failingCollections := ["float_locations"] }
    let descriptor := Descriptor.ofTopic .salinity none none
    let failing (float : String) := decide (float ∈ ["2"])
    FailsOnly {} descriptor failing sound broken ∧
      (∃ fetched, sound (drivingSelect {} descriptor) = .ok fetched) ∧
      (∃ whole part, (execute sound {} 1 oldestFirst descriptor).result = .ok whole ∧
        (execute broken {} 2 (fun _ => 1) descriptor).result = .ok part ∧
        whole.rows.Perm (part.rows ++ contribution sound {} descriptor "2") ∧
        part.statistics.floatsFailed = ["2"]) ∧
      (∃ cause, closed (drivingSelect {} descriptor) = .error cause ∧
        (execute closed {} 1 oldestFirst descriptor).result =
          .error (.store "float_locations" cause)) := by
  intro position measurement collections sound broken closed descriptor failing
  have only : FailsOnly {} descriptor failing sound broken :=
    failsOnly_toStore { collections, failingFloats := ["2"] } rfl
  have answered : sound (drivingSelect {} descriptor) = .ok _ :=
    MemoryStore.toStore_ok collections _
  have refused : closed (drivingSelect {} descriptor) =
      .error (.status 503 ("float_locations" ++ " is unavailable.")) := rfl
  have failed : (queried sound {} descriptor).filter failing = ["2"] := by decide +kernel
  have isolated := execute_isolates_failures {} descriptor 1 2 oldestFirst (fun _ => 1)
  obtain ⟨agree, -, succeed⟩ := isolated.1 failing sound broken _ only answered
  obtain ⟨whole, part, wholeResult, partResult⟩ := succeed (by decide +kernel)
  obtain ⟨rows, -, -, -, -, -, -, floats, -⟩ := agree whole part wholeResult partResult
  rw [failed] at rows floats
  have two : ["2"].flatMap (contribution sound {} descriptor) =
      contribution sound {} descriptor "2" := List.flatMap_singleton ..
  refine ⟨only, ⟨_, answered⟩, ⟨whole, part, wholeResult, partResult, two ▸ rows, floats⟩, _,
    refused, (isolated.2 closed _ refused).1⟩

/-- Three rows of each of eight floats, two of which have names that are no numbers. The 24 rows of
the sound store can be sorted. Of the 21 that are left when one of the two fails, the final sort
finds that their order contradicts itself. -/
theorem execute_stops_without_one_float :
    let position (float : String) : Row := .ofList [("float_id", .text float),
      ("cycle_number", .int 1), ("latitude", .int 10), ("longitude", .int 70)]
    let measurement (float : String) (depth : Int64) : Row := .ofList [("float_id", .text float),
      ("cycle_number", .int 1), ("pres_adjusted", .int depth), ("psal_adjusted", .int 35)]
    let floats := ["10", "1a", "2", "2b", "3", "7", "8", "9"]
    let collections := [("float_locations", floats.map position),
      ("float_measurements", floats.flatMap fun float => [5, 10, 15].map (measurement float))]
    let sound := MemoryStore.toStore { collections }
    let broken := MemoryStore.toStore { collections, failingFloats := ["1a"] }
    let descriptor := Descriptor.ofTopic .salinity none none
    let failing (float : String) := decide (float ∈ ["1a"])
    FailsOnly {} descriptor failing sound broken ∧
      ((execute sound {} 1 oldestFirst descriptor).result.map fun outcome =>
        outcome.rows.length) = .ok 24 ∧
      (execute broken {} 1 oldestFirst descriptor).result = .error .disorder := by
  intro position measurement floats collections sound broken descriptor failing
  refine ⟨failsOnly_toStore { collections, failingFloats := ["1a"] } rfl, ?_⟩
  decide +kernel

end ArgoQuery.Join
