import ArgoQuery.Proofs.Join.MemoryFetches
import ArgoQuery.Proofs.Text.ByteOrder

/-!
# The requests of a join

Main statement: `executeAlong_requests`. A join asks for the driving side, waits for the answer, and
then asks once for every float that a kept row with a whole key has, in the order of their bytes. It
is said how many of these requests are unanswered at a time, and that all are answered in the end.

Nothing is assumed of the store, nor of when its answers come. Of the fetches it is assumed that
they are a trace of a window: `FetchWindow.trace_events` has this of the fetches of `execute`, under
every schedule.

A float whose kept rows all lack a cycle is not asked for: `execute_without_cycle`.
-/

namespace ArgoQuery.Join

open FetchWindow (Trace)

section Requests

variable {store : Store} {names : CollectionNames} {descriptor : Descriptor}

/-- The floats that are fetched are those of the kept rows that have both keys. -/
theorem mem_queried_iff {float : String} :
    float ∈ queried store names descriptor ↔
      ∃ row ∈ keptRows store names descriptor, row.key? Column.floatId.name = some float ∧
        (row.key? Column.cycleNumber.name).isSome = true := by
  rw [queried, indexes_indexOf.floats, List.mem_map]
  constructor
  · rintro ⟨key, member, rfl⟩
    obtain ⟨row, kept, own⟩ := CycleKey.mem_filterMap_ofRow?.mp member
    obtain ⟨float, cycle⟩ := CycleKey.ofRow?_eq_some_iff.mp own
    exact ⟨row, kept, float, by rw [cycle]; rfl⟩
  · rintro ⟨row, kept, hasFloat, hasCycle⟩
    obtain ⟨cycle, found⟩ := Option.isSome_iff_exists.mp hasCycle
    have own : CycleKey.ofRow? row = some ⟨float, cycle⟩ :=
      CycleKey.ofRow?_eq_some_iff.mpr ⟨hasFloat, found⟩
    exact ⟨_, CycleKey.mem_filterMap_ofRow?.mpr ⟨row, kept, own⟩, rfl⟩

/-- The driving select asks for no float. -/
theorem equal_notMem_drivingSelect (column key : String) :
    .equal column key ∉ (drivingSelect names descriptor).filters := by
  intro member
  exact ne_equal_of_mem_pushed member column key rfl

/-- The select for a float asks for it, and for no other. -/
theorem equal_mem_dependentSelect_iff {float column key : String} :
    .equal column key ∈ (dependentSelect names descriptor float).filters ↔
      column = Column.floatId.name ∧ key = float := by
  constructor
  · intro member
    rcases List.mem_append.mp member with own | pushed
    · have same := List.mem_singleton.mp own
      cases same
      exact ⟨rfl, rfl⟩
    · exact absurd rfl (ne_equal_of_mem_pushed pushed column key)
  · rintro ⟨rfl, rfl⟩
    exact List.mem_append_left _ (List.mem_singleton.mpr rfl)

/-- A join asks for the driving side first, and for no float with it. After the answer it asks for
the floats of the kept rows that have both keys, once for each, in the order of their bytes. If the
driving side is not answered, or no kept row has both keys, there is nothing to ask for.

Never are more than `concurrency` requests unanswered, or more than one if that is zero. In the end
all are answered.

Behind the driving select the events are a trace of the window, so what is asked, answered and
unanswered is what every such trace has. -/
theorem executeAlong_requests (store : Store) (names : CollectionNames) (descriptor : Descriptor)
    (concurrency : Nat) (fetching : List String → List (FetchEvent String))
    (buffered : ∀ floats, Trace (max 1 concurrency) ⟨floats, []⟩ (fetching floats)) :
    let driving := drivingSelect names descriptor
    let kept := keptRows store names descriptor
    (driving.collection = names.ofSide descriptor.driving ∧
      ∀ key, .equal Column.floatId.name key ∉ driving.filters) ∧
    (∀ float, (dependentSelect names descriptor float).collection =
        names.ofSide descriptor.dependent ∧
      ∀ key, .equal Column.floatId.name key ∈ (dependentSelect names descriptor float).filters ↔
        key = float) ∧
    ∃ (floats : List String) (later : List (FetchEvent Select)),
      (executeAlong fetching store names descriptor).events =
        .asked driving :: .answered driving :: later ∧
      ((∃ cause, store driving = .error cause) ∨
        (∀ row ∈ kept, row.key? Column.floatId.name = none ∨
          row.key? Column.cycleNumber.name = none) → later = []) ∧
      later.filterMap FetchEvent.asked? = floats.map (dependentSelect names descriptor) ∧
      (∀ float, float ∈ floats ↔ ∃ row ∈ kept, row.key? Column.floatId.name = some float ∧
        (row.key? Column.cycleNumber.name).isSome = true) ∧
      floats.Pairwise (fun first second => Text.bytes first < Text.bytes second) ∧
      (∀ before, before <+: later → ∃ unanswered : List Select,
        unanswered.length ≤ max 1 concurrency ∧
        (before.filterMap FetchEvent.answered? ++ unanswered).Perm
          (before.filterMap FetchEvent.asked?)) ∧
      (later.filterMap FetchEvent.answered?).Perm (later.filterMap FetchEvent.asked?) := by
  intro driving kept
  refine ⟨⟨rfl, equal_notMem_drivingSelect _⟩, ?_, ?_⟩
  · intro float
    refine ⟨rfl, fun key => ?_⟩
    rw [equal_mem_dependentSelect_iff]
    exact and_iff_right rfl
  have idle : fetching [] = [] := (buffered []).eq_nil
  have trace := (buffered (queried store names descriptor)).map (dependentSelect names descriptor)
  refine ⟨queried store names descriptor, _, executeAlong_events idle, ?_, trace.asked_eq,
    fun _ => mem_queried_iff, ?_, fun _ => trace.unanswered_le, ?_⟩
  · intro nothing
    have none_queried : queried store names descriptor = [] := by
      refine List.eq_nil_iff_forall_not_mem.mpr ?_
      intro float member
      obtain ⟨row, isKept, hasFloat, hasCycle⟩ := mem_queried_iff.mp member
      rcases nothing with ⟨cause, refused⟩ | lacking
      · simp [keptRows, drivingRows, driving, refused] at isKept
      · rcases lacking row isKept with noFloat | noCycle
        · simp [noFloat] at hasFloat
        · simp [noCycle] at hasCycle
    rw [none_queried, idle, List.map_nil]
  · exact queried_ascending.imp Text.bytes_lt_bytes
  · exact trace.answered_perm.trans (List.Perm.of_eq trace.asked_eq.symm)

end Requests

/-- Two of three floats have whole keys and are fetched, both at the same time. -/
theorem execute_asks_two_floats :
    let position (float : String) : Row := .ofList [("float_id", .text float),
      ("cycle_number", .int 1), ("latitude", .int 10), ("longitude", .int 70)]
    let adrift : Row := .ofList [("float_id", .text "7"), ("latitude", .int 10),
      ("longitude", .int 70)]
    let store := MemoryStore.toStore
      { collections := [("float_locations", [position "3", adrift, position "10"])] }
    let descriptor := Descriptor.ofTopic .salinity none none
    let fetching : List String → List (FetchEvent String) := FetchWindow.events 2 fun _ => 1
    (∀ floats, Trace (max 1 2) ⟨floats, []⟩ (fetching floats)) ∧
      ∃ later, (execute store {} 2 (fun _ => 1) descriptor).events =
          .asked (drivingSelect {} descriptor) :: .answered (drivingSelect {} descriptor) :: later ∧
        later.filterMap FetchEvent.asked? =
          [dependentSelect {} descriptor "10", dependentSelect {} descriptor "3"] ∧
        (later.filterMap FetchEvent.answered?).Perm (later.filterMap FetchEvent.asked?) := by
  intro position adrift store descriptor fetching
  have buffered (floats : List String) : Trace (max 1 2) ⟨floats, []⟩ (fetching floats) :=
    FetchWindow.trace_events 2 _ floats
  obtain ⟨-, -, floats, later, events, -, asked, -, -, -, answered⟩ :=
    executeAlong_requests store {} descriptor 2 fetching buffered
  refine ⟨buffered, later, events, ?_, answered⟩
  have selects : (execute store {} 2 (fun _ => 1) descriptor).selects =
      [drivingSelect {} descriptor, dependentSelect {} descriptor "10",
        dependentSelect {} descriptor "3"] := by decide +kernel
  replace events : (execute store {} 2 (fun _ => 1) descriptor).events = _ := events
  rw [Execution.selects, events] at selects
  exact (List.cons.inj selects).2

/-- A float with a kept row but without a cycle is not fetched, though another float is. -/
theorem execute_without_cycle :
    let position : Row := .ofList [("float_id", .text "1"), ("cycle_number", .int 1),
      ("latitude", .int 10), ("longitude", .int 70)]
    let adrift : Row := .ofList [("float_id", .text "2"), ("latitude", .int 10),
      ("longitude", .int 70)]
    let store := MemoryStore.toStore { collections := [("float_locations", [position, adrift])] }
    let descriptor := Descriptor.ofTopic .salinity none none
    let execution := execute store {} 1 oldestFirst descriptor
    (∃ row ∈ keptRows store {} descriptor, row.key? Column.floatId.name = some "2") ∧
      execution.selects = [drivingSelect {} descriptor, dependentSelect {} descriptor "1"] ∧
      dependentSelect {} descriptor "2" ∉ execution.selects := by
  decide +kernel

end ArgoQuery.Join
