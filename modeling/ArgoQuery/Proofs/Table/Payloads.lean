import ArgoQuery.Proofs.Json.ReadValues
import ArgoQuery.Proofs.Table.RowFields
import ArgoQuery.Proofs.Text.ByteOrder
import ArgoQuery.Table.Payload
import Mathlib.Data.List.Forall2

/-!
# Rows and their payloads

Rows are sent as an array of objects of scalars, and no other value is read as rows: one nested
field anywhere refuses the whole payload (`exists_listOfJson_iff`). A payload is a value, so the
fields of its objects are sorted by name. Main statement: `payload_exact`. Rows of distinct names
and finite numbers come back with their fields sorted and nothing else changed, and a payload that
is read comes back as it was, apart from integers beyond 64 bits with a sign.
-/

namespace ArgoQuery

/-- Items are read one by one, and all of them or none. -/
theorem mapM_eq_ok_iff {Item Result Fault : Type} {read : Item → Except Fault Result}
    {items : List Item} {results : List Result} :
    items.mapM read = .ok results ↔
      List.Forall₂ (fun item result => read item = .ok result) items results := by
  induction items generalizing results with
  | nil =>
    rw [List.forall₂_nil_left_iff]
    exact ⟨fun read => (Except.ok.inj read).symm, fun empty => congrArg Except.ok empty.symm⟩
  | cons item items ih =>
    rw [List.mapM_cons, List.forall₂_cons_left_iff]
    constructor
    · intro done
      cases first : read item with
      | error fault =>
        rw [first] at done
        cases done
      | ok result =>
        cases others : items.mapM read with
        | error fault =>
          rw [first, others] at done
          cases done
        | ok rest =>
          rw [first, others] at done
          exact ⟨result, rest, rfl, ih.mp others, (Except.ok.inj done).symm⟩
    · rintro ⟨result, rest, first, others, rfl⟩
      rw [first, ih.mpr others]
      rfl

/-- Every item has a counterpart exactly if all of them have counterparts in their order. -/
theorem exists_forall₂_iff {Item Result : Type} {Matches : Item → Result → Prop}
    {items : List Item} :
    (∃ results, List.Forall₂ Matches items results) ↔
      ∀ item ∈ items, ∃ result, Matches item result := by
  induction items with
  | nil => simp
  | cons item items ih =>
    simp only [List.forall₂_cons_left_iff, List.forall_mem_cons, ← ih]
    constructor
    · rintro ⟨_, result, rest, first, others, rfl⟩
      exact ⟨⟨result, first⟩, rest, others⟩
    · rintro ⟨⟨result, first⟩, rest, others⟩
      exact ⟨_, result, rest, first, others, rfl⟩

/-- Lists of matching items have the same image if matching items have. -/
theorem map_eq_map_of_forall₂ {Item Result Image : Type} {Matches : Item → Result → Prop}
    {image : Item → Image} {image' : Result → Image} {items : List Item} {results : List Result}
    (matching : List.Forall₂ Matches items results)
    (same : ∀ item result, Matches item result → image' result = image item) :
    results.map image' = items.map image := by
  induction matching with
  | nil => rfl
  | cons first _ ih => rw [List.map_cons, List.map_cons, same _ _ first, ih]

/-- An integer of 64 bits fits a word of 64 bits with a sign. -/
theorem fitsSigned_toInt (value : Int64) : fitsSigned 64 value.toInt = true := by
  have low := value.le_toInt
  have high := value.toInt_lt
  simp only [fitsSigned, Bool.and_eq_true, decide_eq_true_eq]
  exact ⟨low, high⟩

/-- A value is read back from its JSON form. -/
@[simp]
theorem Value.ofJson?_toJson (value : Value) : ofJson? value.toJson = some value := by
  cases value with
  | int value =>
    rw [toJson, ofJson?, if_pos (fitsSigned_toInt value), Int64.ofInt_toInt]
  | _ => rfl

/-- Whether a value is what its text stands for. -/
def Value.ReadsBack : Value → Prop
  | .float x => x.ReadsBack
  | _ => True

instance : (value : Value) → Decidable value.ReadsBack
  | .float x => inferInstanceAs (Decidable x.ReadsBack)
  | .null | .bool _ | .int _ | .text _ => inferInstanceAs (Decidable True)

/-- Whether a value is no number, or a finite one. -/
def Value.isFinite : Value → Bool
  | .float x => x.isFinite
  | _ => true

/-- What is written for a finite value is canonical. -/
theorem Value.canonical_toJson {value : Value} (finite : value.isFinite = true) :
    value.toJson.canonical = value.toJson := by
  cases value with
  | float x => exact (Json.IsCanonical.float finite).canonical_eq
  | _ => rw [toJson, Json.canonical] <;> simp

/-- A value that its text stands for is finite, or no number. -/
theorem Value.ReadsBack.isFinite {value : Value} (reads : value.ReadsBack) :
    value.isFinite = true := by
  cases value with
  | float x => exact Json.isFinite_of_readsBack reads
  | _ => rfl

/-- Whether a JSON value has no parts. -/
def Json.isScalar : Json → Bool
  | .array _ | .object _ => false
  | _ => true

/-- A scalar is read as a value, and nothing else is. -/
theorem Value.exists_ofJson?_iff {json : Json} :
    (∃ value, Value.ofJson? json = some value) ↔ json.isScalar = true := by
  cases json <;> simp [Value.ofJson?, Json.isScalar]

/-- A value that is read is written as it was, unless it is an integer that is too large. -/
theorem Value.toJson_of_ofJson? {json : Json} {value : Value}
    (read : Value.ofJson? json = some value) : value.toJson = json.narrowed := by
  cases json with
  | int whole =>
    rw [Value.ofJson?] at read
    rw [Json.narrowed]
    cases Option.some.inj read
    split_ifs with fits
    · obtain ⟨least, most⟩ := (Bool.and_eq_true ..).mp fits
      rw [Value.toJson, Int64.toInt_ofInt_of_le (of_decide_eq_true least) (of_decide_eq_true most)]
    · rfl
  | array items => cases read
  | object fields => cases read
  | _ =>
    cases Option.some.inj read
    rw [Json.narrowed] <;> simp [Value.toJson]

namespace Row

/-- The row with its fields sorted by name. -/
def byName (row : Row) : Row :=
  ⟨row.fields.insertionSort fun left right => left.1 ≤ right.1⟩

/-- Whether every value of a row is what its text stands for. -/
def ReadsBack (row : Row) : Prop := ∀ field ∈ row.fields, field.2.ReadsBack

instance (row : Row) : Decidable row.ReadsBack :=
  inferInstanceAs (Decidable (∀ field ∈ row.fields, field.2.ReadsBack))

/-- Whether a row arrives as it was sent: no name occurs twice, and every value is read back. -/
structure IsLegible (row : Row) : Prop where
  distinct : (row.fields.map Prod.fst).Nodup
  reads : row.ReadsBack

variable {row : Row}

/-- Sorting the fields of a row by name keeps every one of them. -/
theorem byName_perm (row : Row) : row.byName.fields.Perm row.fields :=
  List.perm_insertionSort ..

/-- A row is read back from its JSON form, field by field. -/
@[simp]
theorem ofJson_toJson (row : Row) : ofJson row.toJson = .ok row := by
  obtain ⟨fields⟩ := row
  rw [toJson, ofJson, mapM_map_eq_pure]
  · rfl
  · intro field
    simp only [Value.ofJson?_toJson]
    rfl

/-- Rows are read back from what is written for each of them. -/
@[simp]
theorem listOfJson_map_toJson (rows : List Row) :
    listOfJson (.array (rows.map toJson)) = .ok rows :=
  mapM_map_eq_pure ofJson_toJson rows

/-- A projection is sent without loss if the row is. -/
theorem ReadsBack.project (reads : row.ReadsBack) (names : List String) :
    (row.project names).IsLegible := by
  have distinct := nodup_project row names
  refine ⟨distinct, ?_⟩
  rintro ⟨name, value⟩ member
  have held : (row.project names).stored? name = some value :=
    (stored?_eq_some_iff distinct).mpr member
  rw [stored?_project] at held
  split_ifs at held
  obtain ⟨source, first, rfl⟩ := Option.map_eq_some_iff.mp held
  exact reads source (List.mem_of_find?_eq_some first)

/-- What is written for a legible row can be read again. -/
theorem IsLegible.toJson (legible : row.IsLegible) (depth : Nat) :
    row.toJson.IsLegible (depth + 1) := by
  refine Json.IsLegible.object ?_
  rintro _ member
  obtain ⟨⟨name, value⟩, held, rfl⟩ := List.mem_map.mp member
  cases value with
  | null => exact .null
  | bool flag => exact .bool flag
  | int value => exact .int (by rw [fitsWord, fitsSigned_toInt, Bool.true_or])
  | float value => exact .float (legible.reads _ held)
  | text value => exact .text value

/-- Whether all numbers of a row are finite. -/
def IsFinite (row : Row) : Prop := ∀ field ∈ row.fields, field.2.isFinite = true

instance (row : Row) : Decidable row.IsFinite :=
  inferInstanceAs (Decidable (∀ field ∈ row.fields, field.2.isFinite = true))

/-- The numbers of a legible row are finite. -/
theorem IsLegible.isFinite (legible : row.IsLegible) : row.IsFinite :=
  fun field member => (legible.reads field member).isFinite

/-- The names of a row that repeats none ascend once they are sorted. -/
theorem byName_ascending (distinct : (row.fields.map Prod.fst).Nodup) :
    row.byName.fields.Pairwise fun left right => left.1 < right.1 := by
  have total : Std.Total fun left right : String × Value => left.1 ≤ right.1 :=
    ⟨fun left right => Std.le_total⟩
  have transitive : IsTrans (String × Value) fun left right => left.1 ≤ right.1 :=
    ⟨fun _ _ _ => Std.le_trans⟩
  have sorted := List.pairwise_insertionSort (fun left right => left.1 ≤ right.1) row.fields
  have apart : row.byName.fields.Pairwise fun left right => left.1 ≠ right.1 :=
    List.pairwise_map.mp (((byName_perm row).map Prod.fst).nodup_iff.mpr distinct)
  exact (sorted.and apart).imp fun both => Std.lt_of_le_of_ne both.1 both.2

/-- The canonical form of a row is that of the row with its fields sorted by name. -/
theorem canonical_toJson (distinct : (row.fields.map Prod.fst).Nodup) (finite : row.IsFinite) :
    row.toJson.canonical = row.byName.toJson := by
  have scalars : (row.fields.map fun field => (field.1, field.2.toJson)).map (fun field =>
      (field.1, field.2.canonical)) = row.fields.map fun field => (field.1, field.2.toJson) := by
    rw [List.map_map]
    refine List.map_congr_left fun field member => ?_
    rw [Function.comp_apply, Value.canonical_toJson (finite field member)]
  have names : (row.fields.map fun field => (field.1, field.2.toJson)).map Prod.fst =
      row.fields.map Prod.fst := by
    rw [List.map_map]
    rfl
  have sorted := List.map_insertionSort (fun left right => left.1 ≤ right.1)
    (fun left right => left.1 ≤ right.1) (fun field : String × Value => (field.1, field.2.toJson))
    row.fields fun _ _ _ _ => Iff.rfl
  rw [Row.toJson, Json.canonical]
  rw [scalars, Json.sortedObject_eq (names ▸ distinct), ← sorted]
  rfl

/-- Whether a field of an object is read as a field of a row. -/
def ReadsField (field : String × Json) (held : String × Value) : Prop :=
  held.1 = field.1 ∧ Value.ofJson? field.2 = some held.2

/-- A row is read field by field. -/
theorem ofJson_eq_ok_iff {json : Json} {row : Row} :
    ofJson json = .ok row ↔
      ∃ fields, json = .object fields ∧ List.Forall₂ ReadsField fields row.fields := by
  cases json with
  | object fields =>
    obtain ⟨held⟩ := row
    have whole (read : Except PayloadFault (List (String × Value))) :
        (read.bind fun values => .ok (Row.mk values)) = .ok ⟨held⟩ ↔ read = .ok held := by
      cases read <;> simp [Except.bind]
    simp only [Json.object.injEq, exists_eq_left']
    refine (whole _).trans (mapM_eq_ok_iff.trans (Iff.of_eq ?_))
    refine congrArg (List.Forall₂ · fields held) (funext₂ fun field value => propext ?_)
    obtain ⟨name, part⟩ := field
    simp only [ReadsField]
    cases Value.ofJson? part with
    | none => simp
    | some read => simp [Prod.ext_iff, eq_comm]
  | _ => simp [ofJson]

/-- Rows are read one by one. -/
theorem listOfJson_eq_ok_iff {items : List Json} {rows : List Row} :
    listOfJson (.array items) = .ok rows ↔
      List.Forall₂ (fun item row => ofJson item = .ok row) items rows :=
  mapM_eq_ok_iff

/-- A row that is read is written as it was, unless one of its integers is too large. -/
theorem toJson_of_ofJson {json : Json} (read : ofJson json = .ok row) :
    row.toJson = json.narrowed := by
  obtain ⟨fields, rfl, matching⟩ := ofJson_eq_ok_iff.mp read
  rw [toJson, Json.narrowed]
  refine congrArg Json.object (map_eq_map_of_forall₂ matching fun field held same => ?_)
  exact Prod.ext same.1 (Value.toJson_of_ofJson? same.2)

/-- What is sent of rows. -/
def payload (rows : List Row) : Json := (Json.array (rows.map toJson)).canonical

/-- Rows that are read are written as they were, apart from integers that are too large. -/
theorem array_toJson_of_listOfJson {json : Json} {rows : List Row}
    (read : listOfJson json = .ok rows) : .array (rows.map toJson) = json.narrowed := by
  cases json with
  | array items =>
    rw [Json.narrowed]
    refine congrArg Json.array (map_eq_map_of_forall₂ (listOfJson_eq_ok_iff.mp read) ?_)
    exact fun _ _ => toJson_of_ofJson
  | _ => cases read

/-- Rows are read back from their payload, each with its fields sorted by name. -/
theorem listOfJson_payload {rows : List Row}
    (distinct : ∀ row ∈ rows, (row.fields.map Prod.fst).Nodup)
    (finite : ∀ row ∈ rows, row.IsFinite) :
    listOfJson (payload rows) = .ok (rows.map byName) := by
  have sorted : payload rows = .array ((rows.map byName).map toJson) := by
    rw [payload, Json.canonical, List.map_map, List.map_map]
    refine congrArg Json.array (List.map_congr_left fun row member => ?_)
    exact canonical_toJson (distinct row member) (finite row member)
  rw [sorted, listOfJson_map_toJson]

/-- The text of legible rows is read as their payload. -/
theorem ofText?_payload {rows : List Row} (legible : ∀ row ∈ rows, row.IsLegible) :
    Json.ofText? (Json.array (rows.map toJson)).compact = some (payload rows) := by
  refine Json.ofText?_compact_canonical (Json.IsLegible.array ?_)
  intro item member
  obtain ⟨row, listed, rfl⟩ := List.mem_map.mp member
  exact (legible row listed).toJson 125

end Row

/-- Whether a value is an array of objects of scalars. -/
def Json.IsPayload (json : Json) : Prop :=
  ∃ items, json = .array items ∧ ∀ item ∈ items, ∃ fields, item = .object fields ∧
    ∀ field ∈ fields, field.2.isScalar = true

namespace Row

/-- An object of scalars is read as a row, and nothing else is. -/
theorem exists_ofJson_iff {json : Json} :
    (∃ row, ofJson json = .ok row) ↔
      ∃ fields, json = .object fields ∧ ∀ field ∈ fields, field.2.isScalar = true := by
  have each (field : String × Json) :
      (∃ held, ReadsField field held) ↔ field.2.isScalar = true := by
    rw [← Value.exists_ofJson?_iff]
    constructor
    · exact fun ⟨held, _, read⟩ => ⟨held.2, read⟩
    · exact fun ⟨value, read⟩ => ⟨(field.1, value), rfl, read⟩
  have all (fields : List (String × Json)) :
      (∃ held, List.Forall₂ ReadsField fields held) ↔
        ∀ field ∈ fields, field.2.isScalar = true := by
    simp only [exists_forall₂_iff, each]
  constructor
  · rintro ⟨row, read⟩
    obtain ⟨fields, object, matching⟩ := ofJson_eq_ok_iff.mp read
    exact ⟨fields, object, (all fields).mp ⟨row.fields, matching⟩⟩
  · rintro ⟨fields, object, scalars⟩
    obtain ⟨held, matching⟩ := (all fields).mpr scalars
    exact ⟨⟨held⟩, ofJson_eq_ok_iff.mpr ⟨fields, object, matching⟩⟩

/-- An array of objects of scalars is read as rows, and nothing else is. -/
theorem exists_listOfJson_iff {json : Json} :
    (∃ rows, listOfJson json = .ok rows) ↔ json.IsPayload := by
  cases json with
  | array items =>
    simp only [listOfJson_eq_ok_iff, exists_forall₂_iff, exists_ofJson_iff, Json.IsPayload,
      Json.array.injEq, exists_eq_left']
  | _ => simp [listOfJson, Json.IsPayload]

/-- Rows of distinct names and finite numbers are read back from their payload, each with its fields
sorted by name. A value is read as rows if it is an array of objects of scalars and only then, and
their payload is the value again, apart from integers beyond 64 bits with a sign. The value has to
be canonical, as every value is that is read from a text.

Both directions go field by field: the values of a row are scalars, each of which is read back, and
names are sorted once and stay so. -/
theorem payload_exact :
    (∀ rows : List Row, (∀ row ∈ rows, (row.fields.map Prod.fst).Nodup) →
      (∀ row ∈ rows, row.IsFinite) →
        listOfJson (payload rows) = .ok (rows.map byName) ∧
        ∀ row ∈ rows, row.byName.fields.Perm row.fields ∧
          row.byName.fields.Pairwise fun left right => Text.bytes left.1 < Text.bytes right.1) ∧
    ∀ json : Json, ((∃ rows, listOfJson json = .ok rows) ↔ json.IsPayload) ∧
      (json.IsCanonical → ∀ rows, listOfJson json = .ok rows → payload rows = json.narrowed) ∧
      ∀ source, Json.ofText? source = some json → json.IsCanonical := by
  refine ⟨fun rows distinct finite => ⟨listOfJson_payload distinct finite, ?_⟩, ?_⟩
  · intro row member
    exact ⟨byName_perm row, (byName_ascending (distinct row member)).imp Text.bytes_lt_bytes⟩
  · refine fun json => ⟨exists_listOfJson_iff, ?_, fun _ => Json.isCanonical_of_ofText?⟩
    intro proper rows read
    rw [payload, array_toJson_of_listOfJson read, proper.narrowed.canonical_eq]

/-- A row of all kinds of values comes back sorted, its whole fractional number and its negative
zero still fractional; an integer beyond 64 bits with a sign comes back as a fractional number. -/
theorem payload_of_all_kinds :
    let row : Row := ⟨[("qc", .bool true), ("juld", .float (-0.0)), ("pres_adjusted", .float 12),
      ("float_id", .text "7"), ("cycle_number", .int (-3)), ("psal_adjusted", .null)]⟩
    let sorted : Row := ⟨[("cycle_number", .int (-3)), ("float_id", .text "7"),
      ("juld", .float (-0.0)), ("pres_adjusted", .float 12), ("psal_adjusted", .null),
      ("qc", .bool true)]⟩
    let large (cycle : Json) : Json :=
      .array [.object [("cycle_number", cycle), ("float_id", .text "7")]]
    listOfJson (payload [row]) = .ok [sorted] ∧
      ∃ rows, listOfJson (large (.int 9223372036854775808)) = .ok rows ∧
        payload rows = large (.float 9223372036854775808) := by
  intro row sorted large
  obtain ⟨back, forth⟩ := payload_exact
  have distinct : ∀ other ∈ [row], (other.fields.map Prod.fst).Nodup := by decide
  have finite : ∀ other ∈ [row], other.IsFinite := by decide +kernel
  have order : row.byName = sorted := by decide +kernel
  obtain ⟨readable, same, -⟩ := forth (large (.int 9223372036854775808))
  have proper : (large (.int 9223372036854775808)).IsCanonical := by
    refine .array (List.forall_mem_singleton.mpr (.object (by decide) ?_))
    exact List.forall_mem_cons.mpr ⟨.int (by decide), List.forall_mem_singleton.mpr (.text _)⟩
  obtain ⟨rows, read⟩ := readable.mpr
    ⟨_, rfl, List.forall_mem_singleton.mpr ⟨_, rfl, by decide⟩⟩
  have wide : fitsSigned 64 9223372036854775808 = false := by decide
  have nearest : Binary64.ofInt 9223372036854775808 = 9223372036854775808 := by decide +kernel
  refine ⟨order ▸ (back [row] distinct finite).1, rows, read, ?_⟩
  rw [same proper rows read]
  simp [large, Json.narrowed, wide, nearest]

end Row

end ArgoQuery
