import ArgoQuery.Join.KeyIndex

/-!
# What the index of positions answers

The index is filled row by row. `Indexes` says what it holds of the rows that were added: of every
key the position of the last row that has it, the cycles of every float, and the floats in ascending
order. Adding a row preserves it, so `indexes_ofRows` has it of any list of rows.

A row that lacks a key leaves no trace in the index.
-/

namespace ArgoQuery.Join

namespace CycleKey

/-- The keys of some rows are those of each of them. -/
theorem mem_filterMap_ofRow? {key : CycleKey} {rows : List Row} :
    key ∈ rows.filterMap ofRow? ↔ ∃ row ∈ rows, ofRow? row = some key := List.mem_filterMap

/-- A row has a key exactly if it has the keys of both its columns. -/
theorem ofRow?_eq_some_iff {row : Row} {key : CycleKey} :
    ofRow? row = some key ↔ row.key? Column.floatId.name = some key.float ∧
      row.key? Column.cycleNumber.name = some key.cycle := by
  obtain ⟨float, cycle⟩ := key
  rw [ofRow?]
  cases row.key? Column.floatId.name with
  | none => simp
  | some float' =>
    cases row.key? Column.cycleNumber.name with
    | none => simp
    | some cycle' => simp

/-- The float of a cycle key is the key of the row under the name of floats. -/
theorem key?_of_ofRow? {row : Row} {key : CycleKey} (own : ofRow? row = some key) :
    row.key? Column.floatId.name = some key.float :=
  (ofRow?_eq_some_iff.mp own).1

/-- A key has a last row if any row has it. -/
theorem last?_isSome {key : CycleKey} {rows : List Row} :
    (key.last? rows).isSome = true ↔ key ∈ rows.filterMap ofRow? := by
  rw [last?, List.getLast?_isSome, ne_eq, List.filter_eq_nil_iff, mem_filterMap_ofRow?]
  simp

/-- A further row is the last one of its key, and of no other. -/
theorem last?_append_row (key : CycleKey) (rows : List Row) (row : Row) :
    key.last? (rows ++ [row]) = if ofRow? row = some key then some row else key.last? rows := by
  rw [last?, last?, List.filter_append]
  by_cases has : ofRow? row = some key
  · simp [has]
  · simp [has]

/-- What leaves the keys of rows alone keeps the last row of a key in its place. -/
theorem last?_map {f : Row → Row} (keeps : ∀ row, ofRow? (f row) = ofRow? row) (key : CycleKey)
    (rows : List Row) : key.last? (rows.map f) = (key.last? rows).map f := by
  rw [last?, List.filter_map, List.getLast?_map, last?]
  refine congrArg (fun part => part.getLast?.map f) (List.filter_congr fun row _ => ?_)
  rw [Function.comp_apply, keeps]

end CycleKey

/-- The first entry of a list answers for its own key. -/
theorem lookup_cons_eq {Key Entry : Type} [DecidableEq Key] (key present : Key) (entry : Entry)
    (rest : List (Key × Entry)) :
    ((present, entry) :: rest).lookup key =
      if key = present then some entry else rest.lookup key := by
  rw [List.lookup_cons]
  by_cases same : key = present
  · simp [same]
  · simp [same, beq_eq_false_iff_ne.mpr same]

namespace KeyIndex

/-- After a position is put it is found under its key, and under any other key what was found
before. -/
@[simp]
theorem lookup_putPosition (key other : CycleKey) (position : Position)
    (positions : List (CycleKey × Position)) :
    (putPosition key position positions).lookup other =
      if other = key then some position else positions.lookup other := by
  induction positions with
  | nil => rw [putPosition, lookup_cons_eq]
  | cons entry rest ih =>
    obtain ⟨present, old⟩ := entry
    rw [putPosition]
    by_cases same : present = key
    · rw [if_pos same, lookup_cons_eq, lookup_cons_eq, same]
      split <;> rfl
    · rw [if_neg same, lookup_cons_eq, lookup_cons_eq, ih]
      by_cases asked : other = present
      · have apart : other ≠ key := asked ▸ same
        rw [if_pos asked, if_neg apart, if_pos asked]
      · rw [if_neg asked, if_neg asked]

/-- A position that is put is either one more or replaces one. -/
theorem length_putPosition (key : CycleKey) (position : Position)
    (positions : List (CycleKey × Position)) :
    (putPosition key position positions).length +
      (if (positions.lookup key).isSome then 1 else 0) = positions.length + 1 := by
  induction positions with
  | nil => rfl
  | cons entry rest ih =>
    obtain ⟨present, old⟩ := entry
    rw [putPosition, lookup_cons_eq]
    by_cases same : present = key
    · rw [if_pos same, if_pos same.symm]
      rfl
    · rw [if_neg same, if_neg (Ne.symm same), List.length_cons, List.length_cons, ← ih]
      omega

/-- The cycles of a float among entries. -/
def cyclesIn (float : String) (entries : List (String × List String)) : List String :=
  (entries.lookup float).getD []

/-- The cycles of a float are those of the first entry that has its name. -/
@[simp]
theorem cyclesIn_cons (float present : String) (cycles : List String)
    (rest : List (String × List String)) :
    cyclesIn float ((present, cycles) :: rest) =
      if float = present then cycles else cyclesIn float rest := by
  rw [cyclesIn, lookup_cons_eq, cyclesIn]
  split <;> rfl

/-- A float that comes before all others has no cycles. -/
theorem cyclesIn_eq_nil {float : String} {entries : List (String × List String)}
    (before : ∀ other ∈ entries.map Prod.fst, float < other) : cyclesIn float entries = [] := by
  induction entries with
  | nil => rfl
  | cons entry rest ih =>
    have first : float < entry.1 := before entry.1 List.mem_cons_self
    have apart : float ≠ entry.1 := by
      intro same
      exact Std.lt_irrefl (same ▸ first : entry.1 < entry.1)
    rw [cyclesIn_cons, if_neg apart]
    exact ih fun other member => before other (List.mem_cons_of_mem _ member)

/-- A cycle that is added brings its float, and no other. -/
theorem mem_floats_addCycle (key : CycleKey) (entries : List (String × List String))
    (float : String) :
    float ∈ (addCycle key entries).map Prod.fst ↔
      float = key.float ∨ float ∈ entries.map Prod.fst := by
  induction entries with
  | nil => simp [addCycle]
  | cons entry rest ih =>
    obtain ⟨present, cycles⟩ := entry
    rw [addCycle]
    split
    · rename_i same
      simp [same]
    · split
      · simp
      · simp only [List.map_cons, List.mem_cons, ih]
        exact or_left_comm

/-- The floats stay in ascending order. -/
theorem ascending_addCycle (key : CycleKey) {entries : List (String × List String)}
    (ascending : (entries.map Prod.fst).Pairwise (· < ·)) :
    ((addCycle key entries).map Prod.fst).Pairwise (· < ·) := by
  induction entries with
  | nil => simp [addCycle]
  | cons entry rest ih =>
    obtain ⟨present, cycles⟩ := entry
    obtain ⟨first, others⟩ := List.pairwise_cons.mp ascending
    rw [addCycle]
    split
    · exact ascending
    · rename_i apart
      split
      · rename_i before
        refine List.pairwise_cons.mpr ⟨?_, ascending⟩
        intro other member
        rcases List.mem_cons.mp member with rfl | later
        · exact before
        · exact Std.lt_trans before (first other later)
      · rename_i notBefore
        have after : present < key.float :=
          Std.lt_of_le_of_ne (Std.not_lt.mp notBefore) (Ne.symm apart)
        refine List.pairwise_cons.mpr ⟨?_, ih others⟩
        intro other member
        rcases (mem_floats_addCycle key rest other).mp member with rfl | later
        · exact after
        · exact first other later

/-- Adding a cycle gives it to its float and leaves the other floats as they were.

The float is new if it comes before the float of an entry: the entries ascend, so none of them is
its own. -/
theorem mem_cyclesIn_addCycle (key : CycleKey) {entries : List (String × List String)}
    (ascending : (entries.map Prod.fst).Pairwise (· < ·)) (float cycle : String) :
    cycle ∈ cyclesIn float (addCycle key entries) ↔
      (float = key.float ∧ cycle = key.cycle) ∨ cycle ∈ cyclesIn float entries := by
  induction entries with
  | nil =>
    rw [addCycle, cyclesIn_cons]
    by_cases asked : float = key.float <;> simp [asked, cyclesIn]
  | cons entry rest ih =>
    obtain ⟨present, cycles⟩ := entry
    obtain ⟨first, others⟩ := List.pairwise_cons.mp ascending
    rw [addCycle]
    split
    · rename_i same
      rw [cyclesIn_cons, cyclesIn_cons, same]
      by_cases asked : float = present
      · rw [if_pos asked, if_pos asked]
        by_cases known : key.cycle ∈ cycles
        · rw [if_pos known]
          constructor
          · exact .inr
          · rintro (⟨-, rfl⟩ | member)
            · exact known
            · exact member
        · simp [if_neg known, asked, or_comm]
      · simp [asked]
    · rename_i apart
      split
      · rename_i before
        have absent : cyclesIn key.float ((present, cycles) :: rest) = [] := by
          refine cyclesIn_eq_nil ?_
          intro other member
          rcases List.mem_cons.mp member with rfl | later
          · exact before
          · exact Std.lt_trans before (first other later)
        rw [cyclesIn_cons]
        by_cases asked : float = key.float
        · simp [asked, absent]
        · simp [asked]
      · rw [cyclesIn_cons, cyclesIn_cons]
        by_cases asked : float = present
        · have other : float ≠ key.float := by
            intro same
            exact apart (same.symm.trans asked)
          simp [if_pos asked, other]
        · rw [if_neg asked, if_neg asked]
          exact ih others

/-- What the index of some rows holds. -/
structure Indexes (rows : List Row) (index : KeyIndex) : Prop where
  /-- Of several rows with a key the last one counts. -/
  positions : ∀ key, index.position? key = (key.last? rows).map Position.ofRow
  cycles : ∀ float cycle, cycle ∈ index.cyclesOf float ↔
    CycleKey.mk float cycle ∈ rows.filterMap CycleKey.ofRow?
  floats : ∀ float, float ∈ index.floats ↔
    float ∈ (rows.filterMap CycleKey.ofRow?).map CycleKey.float
  ascending : index.floats.Pairwise (· < ·)
  /-- Every row with a key either has a position or has replaced one. -/
  counted : index.positions.length + index.duplicates =
    (rows.filterMap CycleKey.ofRow?).length

/-- The empty index is that of no rows. -/
theorem indexes_empty : Indexes [] empty where
  positions _ := rfl
  cycles float cycle := by simp [cyclesOf, empty]
  floats float := by simp [KeyIndex.floats, empty]
  ascending := List.Pairwise.nil
  counted := rfl

/-- A row that lacks a key leaves the index as it is. -/
theorem Indexes.skip {rows : List Row} {index : KeyIndex} (indexed : Indexes rows index) {row : Row}
    (missing : CycleKey.ofRow? row = none) : Indexes (rows ++ [row]) index := by
  have keys : (rows ++ [row]).filterMap CycleKey.ofRow? = rows.filterMap CycleKey.ofRow? := by
    simp [missing]
  constructor
  · intro key
    rw [CycleKey.last?_append_row, if_neg (by simp [missing])]
    exact indexed.positions key
  · intro float cycle
    rw [keys]
    exact indexed.cycles float cycle
  · intro float
    rw [keys]
    exact indexed.floats float
  · exact indexed.ascending
  · rw [keys]
    exact indexed.counted

/-- A row with a key is indexed under it. -/
theorem Indexes.add {rows : List Row} {index : KeyIndex} (indexed : Indexes rows index) {row : Row}
    {own : CycleKey} (found : CycleKey.ofRow? row = some own) :
    Indexes (rows ++ [row]) (index.add own (Position.ofRow row)) := by
  have keys : (rows ++ [row]).filterMap CycleKey.ofRow? =
      rows.filterMap CycleKey.ofRow? ++ [own] := by
    simp [found]
  constructor
  · intro key
    have put : (index.add own (Position.ofRow row)).position? key =
        if key = own then some (Position.ofRow row) else index.position? key :=
      lookup_putPosition own key (Position.ofRow row) index.positions
    rw [CycleKey.last?_append_row, found, put]
    by_cases same : key = own
    · simp [same]
    · rw [if_neg same, if_neg (by simpa using Ne.symm same)]
      exact indexed.positions key
  · intro float cycle
    have entries : cycle ∈ index.cyclesOf float ↔ _ := indexed.cycles float cycle
    rw [keys, List.mem_append, List.mem_singleton, ← entries, or_comm]
    refine (mem_cyclesIn_addCycle own indexed.ascending float cycle).trans (or_congr_left ?_)
    rw [CycleKey.mk.injEq]
  · intro float
    rw [keys, List.map_append, List.mem_append, ← indexed.floats float, or_comm]
    refine (mem_floats_addCycle own index.cyclesByFloat float).trans (or_congr_left ?_)
    simp
  · exact ascending_addCycle own indexed.ascending
  · have placed : (index.add own (Position.ofRow row)).positions.length +
        (if (index.position? own).isSome then 1 else 0) = index.positions.length + 1 :=
      length_putPosition own (Position.ofRow row) index.positions
    have replaced : (index.add own (Position.ofRow row)).duplicates =
        index.duplicates + if (index.position? own).isSome then 1 else 0 := rfl
    have counted := indexed.counted
    rw [keys, List.length_append, List.length_singleton, ← counted, replaced]
    omega

/-- Adding a row keeps the index in step with the rows. -/
theorem Indexes.addRow {rows : List Row} {index : KeyIndex} (indexed : Indexes rows index)
    (row : Row) : Indexes (rows ++ [row]) (index.addRow row) := by
  unfold KeyIndex.addRow
  cases found : CycleKey.ofRow? row with
  | none => exact indexed.skip found
  | some own => exact indexed.add found

/-- The index of a list of rows is in step with it. -/
theorem indexes_ofRows (rows : List Row) : Indexes rows (ofRows rows) := by
  have run (rest seen : List Row) (index : KeyIndex) (indexed : Indexes seen index) :
      Indexes (seen ++ rest) (rest.foldl KeyIndex.addRow index) := by
    induction rest generalizing seen index with
    | nil => simpa using indexed
    | cons row rest ih => simpa using ih _ _ (indexed.addRow row)
  exact run rows [] empty indexes_empty

/-- The cycles of a float are those that have a position. -/
theorem Indexes.mem_cyclesOf {rows : List Row} {index : KeyIndex} (indexed : Indexes rows index)
    {float cycle : String} :
    cycle ∈ index.cyclesOf float ↔ (index.position? ⟨float, cycle⟩).isSome = true := by
  rw [indexed.cycles, indexed.positions, Option.isSome_map, CycleKey.last?_isSome]

/-- An index without positions has no floats and has replaced nothing. -/
theorem Indexes.of_positions_isEmpty {rows : List Row} {index : KeyIndex}
    (indexed : Indexes rows index) (none_indexed : index.positions = []) :
    index.floats = [] ∧ index.duplicates = 0 := by
  have no_keys : rows.filterMap CycleKey.ofRow? = [] := by
    refine List.eq_nil_iff_forall_not_mem.mpr ?_
    intro key member
    have found : (index.position? key).isSome = true := by
      rw [indexed.positions key, Option.isSome_map]
      exact CycleKey.last?_isSome.mpr member
    rw [position?, none_indexed] at found
    cases found
  have counted := indexed.counted
  rw [no_keys, List.length_nil] at counted
  refine ⟨List.eq_nil_iff_forall_not_mem.mpr ?_, by omega⟩
  intro float member
  have known := (indexed.floats float).mp member
  rw [no_keys] at known
  cases known

end KeyIndex

end ArgoQuery.Join
