import ArgoQuery.Descriptor.Decoding
import ArgoQuery.Proofs.Json.RoundTrip

/-!
# Descriptors and their texts

A descriptor is known by its text: it is read back from it as it was written, whatever its label
says, and its conditions are told apart by their kind. Main statement: `determined_by_text`. So no
two descriptors have one text, and none have one fingerprint unless their two texts have one digest.

Texts of numbers are taken for granted: what is asked of a bound is that it is finite, and that as a
finite number it is read back from its own text.
-/

namespace ArgoQuery

/-- Whether two different texts have the same digest. -/
def Digest.Blake3.Collide (first second : String) : Prop :=
  first ≠ second ∧ hexDigest first = hexDigest second

/-- What is encoded item by item is decoded item by item, nothing being skipped. -/
theorem filterMapM_map_eq_some {Item Code : Type} {encode : Item → Code}
    {decode : Code → Option (Option Item)} {items : List Item}
    (decoded : ∀ item ∈ items, decode (encode item) = some (some item)) :
    (items.map encode).filterMapM decode = some items := by
  induction items with
  | nil => rfl
  | cons item rest ih =>
    obtain ⟨first, others⟩ := List.forall_mem_cons.mp decoded
    rw [List.map_cons, List.filterMapM_cons, first, ih others]
    rfl

namespace Json

/-- A legible value stays as it is where objects do. -/
theorem IsLegible.arranged_object {depth : Nat} {value : Json} (legible : IsLegible depth value) :
    value.arranged Json.object = value := by
  induction legible with
  | array _ each =>
    rw [arranged, List.map_congr_left each, List.map_id']
  | @object _ fields _ each =>
    have kept : fields.map (fun field => (field.1, field.2.arranged Json.object)) = fields := by
      refine (List.map_congr_left fun field member => ?_).trans (List.map_id fields)
      rw [each field member]
      rfl
    rw [arranged, kept]
  | _ => rw [arranged] <;> simp

/-- The fields of a record are read as they are, if they have different names and all are asked
for. -/
theorem record?_object {names defaulted : List String} {fields : List (String × Json)}
    (known : ∀ field ∈ fields, field.1 ∈ names) (distinct : (fields.map Prod.fst).Nodup) :
    (object fields).record? names defaulted = some fields := by
  have kept : fields.filter (fun field => names.contains field.1) = fields := by
    refine List.filter_eq_self.mpr fun field member => ?_
    exact List.contains_iff_mem.mpr (known field member)
  simp only [record?, kept, if_pos distinct]

end Json

/-- The same of their tree, which is all that the reader of a text has of them. -/
theorem JsonTree.record?_tree {names : List String} {fields : List (String × Json)}
    (legible : ∀ field ∈ fields, field.2.IsLegible (Json.maxDepth - 1))
    (known : ∀ field ∈ fields, field.1 ∈ names) (distinct : (fields.map Prod.fst).Nodup) :
    (Json.object fields).tree.record? names = some fields := by
  have whole : (Json.object fields).record? names [] = some fields :=
    Json.record?_object known distinct
  rw [Json.tree, record?, filterMapM_map_eq_some]
  · exact whole
  · intro field member
    have value : field.2.tree.evaluate? Json.object (Json.maxDepth - 1) = some field.2 := by
      rw [(legible field member).evaluate?_tree, (legible field member).arranged_object]
    simp only [Option.bind_eq_bind, Option.bind_some, value,
      if_pos (List.contains_iff_mem.mpr (known field member))]
    rfl

/-- The name of an upper end is read as that end. -/
@[simp]
theorem UpperEnd.ofJson?_name (upper : UpperEnd) : ofJson? (.text upper.name) = some upper := by
  cases upper <;> decide +kernel

/-- The name of a topic is read as that topic. -/
@[simp]
theorem Topic.ofJson?_name (topic : Topic) : ofJson? (.text topic.name) = some topic := by
  cases topic <;> decide +kernel

/-- A side is read back from what is written for it. -/
@[simp]
theorem Side.ofJson?_toJson (side : Side) : ofJson? side.toJson = some side := by
  cases side <;> decide +kernel

/-- A column is read back from what is written for it, whatever counts as an empty value. -/
@[simp]
theorem Column.ofJson?_toJson (isEmpty : Json → Bool) (column : Column) :
    ofJson? isEmpty column.toJson = some column := by
  have named : findNamed? name all column.name = some column := by
    cases column <;> decide +kernel
  exact named

namespace Condition

/-- The numbers that a condition compares with. -/
def bounds : Condition → List Binary64
  | notNull _ => []
  | between _ min max _ => [min, max]
  | wrapped _ start stop => [start, stop]

/-- The kind is taken off the fields of a condition, which have other names than it. -/
theorem splitKind?_object {kind : String} {fields : List (String × Json)}
    (others : ∀ field ∈ fields, (field.1 == "op") = false) :
    splitKind? (.object (("op", .text kind) :: fields)) = some (kind, .object fields) := by
  have none : fields.filter (fun field => field.1 == "op") = [] :=
    List.filter_eq_nil_iff.mpr fun field member => by simp [others field member]
  have all : fields.filter (fun field => field.1 != "op") = fields :=
    List.filter_eq_self.mpr fun field member => by simp [bne, others field member]
  simp [splitKind?, none, all]

/-- A condition is read back from its JSON form. -/
@[simp]
theorem ofJson?_toJson (condition : Condition) : ofJson? condition.toJson = some condition := by
  cases condition with
  | notNull column =>
    rw [toJson, ofJson?, splitKind?_object (by simp)]
    simp only [Option.bind_eq_bind, Option.bind_some]
    rw [Json.record?_object (by simp) (by simp)]
    simp
  | between column min max upper =>
    rw [toJson, ofJson?, splitKind?_object (by simp)]
    simp only [Option.bind_eq_bind, Option.bind_some]
    rw [Json.record?_object (by simp) (by simp)]
    simp [List.lookup_cons, Json.number?]
  | wrapped column start stop =>
    rw [toJson, ofJson?, splitKind?_object (by simp)]
    simp only [Option.bind_eq_bind, Option.bind_some]
    rw [Json.record?_object (by simp) (by simp)]
    simp [List.lookup_cons, Json.number?]

/-- What is written for a condition can be read again if its bounds can. -/
theorem isLegible_toJson {condition : Condition}
    (reads : ∀ bound ∈ condition.bounds, bound.ReadsBack) (depth : Nat) :
    condition.toJson.IsLegible (depth + 1) := by
  cases condition with
  | notNull column =>
    refine Json.IsLegible.object ?_
    simp only [List.forall_mem_cons, List.not_mem_nil]
    exact ⟨.text _, .text _, nofun⟩
  | between column min max upper =>
    simp only [bounds, List.forall_mem_cons] at reads
    refine Json.IsLegible.object ?_
    simp only [List.forall_mem_cons, List.not_mem_nil]
    exact ⟨.text _, .text _, .float reads.1, .float reads.2.1, .text _, nofun⟩
  | wrapped column start stop =>
    simp only [bounds, List.forall_mem_cons] at reads
    refine Json.IsLegible.object ?_
    simp only [List.forall_mem_cons, List.not_mem_nil]
    exact ⟨.text _, .text _, .float reads.1, .float reads.2.1, nofun⟩

end Condition

namespace Descriptor

/-- The numbers that the conditions of a descriptor compare with. -/
def bounds (descriptor : Descriptor) : List Binary64 :=
  descriptor.conditions.flatMap Condition.bounds

/-- A list of columns is read back. -/
@[simp]
theorem columnsOfJson?_ofList (columns : List Column) :
    columnsOfJson? (.ofList Column.toJson columns) = some columns :=
  mapM_map_eq_pure (Column.ofJson?_toJson Json.isNull) columns

/-- The two columns of a key are read back in their order. -/
@[simp]
theorem joinKeyOfJson?_ofList (first second : Column) :
    joinKeyOfJson? (.ofList Column.toJson [first, second]) = some (first, second) := by
  rw [joinKeyOfJson?, columnsOfJson?_ofList]
  rfl

/-- A label is read back, and so is that there is none. -/
@[simp]
theorem labelOfJson?_ofOption (label : Option String) :
    labelOfJson? (.ofOption .text label) = some label := by
  cases label <;> rfl

section Legible

variable {descriptor : Descriptor} (reads : ∀ bound ∈ descriptor.bounds, bound.ReadsBack)

include reads

/-- A descriptor nests its values three deep: in its conditions. -/
theorem isLegible_toJson (depth : Nat) : descriptor.toJson.IsLegible (depth + 3) := by
  have columns (list : List Column) : (Json.ofList Column.toJson list).IsLegible (depth + 2) := by
    refine Json.IsLegible.array (List.forall_mem_map.mpr ?_)
    intro column _
    exact .text _
  have conditions :
      (Json.ofList Condition.toJson descriptor.conditions).IsLegible (depth + 2) := by
    refine Json.IsLegible.array (List.forall_mem_map.mpr ?_)
    intro condition member
    exact Condition.isLegible_toJson
      (fun bound held => reads bound (List.mem_flatMap.mpr ⟨condition, member, held⟩)) depth
  have label : (Json.ofOption .text descriptor.label).IsLegible (depth + 2) := by
    cases descriptor.label with
    | none => exact .null
    | some label => exact .text label
  refine Json.IsLegible.object ?_
  simp only [List.forall_mem_cons, List.not_mem_nil]
  exact ⟨.text _, .text _, .text _, columns _, conditions, columns _, columns _, label, nofun⟩

/-- A descriptor is read back from its text. -/
theorem ofText?_compact_toJson : ofText? descriptor.toJson.compact = some descriptor := by
  have legible : descriptor.toJson.IsLegible Json.maxDepth := isLegible_toJson reads 124
  have tree := JsonTree.ofText?_compact legible
  have items : (Json.ofList Condition.toJson descriptor.conditions).items? =
      some (descriptor.conditions.map Condition.toJson) := rfl
  have conditions : (descriptor.conditions.map Condition.toJson).mapM Condition.ofJson? =
      some descriptor.conditions := mapM_map_eq_pure Condition.ofJson?_toJson _
  rw [toJson] at legible tree ⊢
  cases legible with
  | object each =>
    have record : JsonTree.record? fieldNames _ = some _ :=
      JsonTree.record?_tree each (by simp [fieldNames]) (by simp)
    rw [ofText?, tree, Option.bind_eq_bind, Option.bind_some, record, Option.bind_eq_bind,
      Option.bind_some]
    simp [ofFields?, List.lookup_cons, items, -List.mapM_map, conditions]

end Legible

open Digest.Blake3 (Collide)

/-- Whether all bounds of a descriptor are finite. -/
def IsFinite (descriptor : Descriptor) : Prop :=
  ∀ bound ∈ descriptor.bounds, bound.isFinite = true

/-- Whether the bounds of a descriptor are read back from their own texts, as far as they are
finite. -/
def ReadsBack (descriptor : Descriptor) : Prop :=
  ∀ bound ∈ descriptor.bounds, bound.isFinite = true → bound.ReadsBack

instance (descriptor : Descriptor) : Decidable descriptor.IsFinite :=
  inferInstanceAs (Decidable (∀ bound ∈ descriptor.bounds, bound.isFinite = true))

instance (descriptor : Descriptor) : Decidable descriptor.ReadsBack :=
  inferInstanceAs (Decidable (∀ bound ∈ descriptor.bounds, bound.isFinite = true → bound.ReadsBack))

/-- A descriptor with finite bounds is read back from its text. No other one has that text, nor has
another one its fingerprint, unless the digests of their texts collide.

The first part is the round trip through the text, and the others follow from it for any two
descriptors. -/
theorem determined_by_text {descriptor : Descriptor} (finite : descriptor.IsFinite)
    (reads : descriptor.ReadsBack) :
    ofText? descriptor.toJson.compact = some descriptor ∧
      ∀ other : Descriptor, other.IsFinite → other.ReadsBack →
        (other.toJson.compact = descriptor.toJson.compact → other = descriptor) ∧
        (¬ Collide other.toJson.compact descriptor.toJson.compact →
          other.fingerprint = descriptor.fingerprint → other = descriptor) := by
  have read := ofText?_compact_toJson fun bound held => reads bound held (finite bound held)
  refine ⟨read, ?_⟩
  intro other finite' reads'
  have read' := ofText?_compact_toJson fun bound held => reads' bound held (finite' bound held)
  have texts : other.toJson.compact = descriptor.toJson.compact → other = descriptor := by
    intro same
    rw [same, read] at read'
    exact (Option.some.inj read').symm
  refine ⟨texts, ?_⟩
  intro apart same
  exact texts (not_not.mp fun different => apart ⟨different, same⟩)

/-- The sign of a zero is kept, as are the quotes and the line break of a label. It makes a
difference to the text, and to the fingerprint unless the digests collide. -/
theorem text_tells_zeros_apart :
    let above (least : Binary64) : Descriptor := { Descriptor.ofTopic .general none none with
      conditions := [.notNull .salinity, .between .latitude least 12.5 .excluded,
        .wrapped .longitude 170 (-170)]
      label := some "\"Rift\",\nnorth" }
    (above (-0.0)).IsFinite ∧ (above (-0.0)).ReadsBack ∧
      ofText? (above (-0.0)).toJson.compact = some (above (-0.0)) ∧
      (above 0).toJson.compact ≠ (above (-0.0)).toJson.compact ∧
      (¬ Collide (above 0).toJson.compact (above (-0.0)).toJson.compact →
        (above 0).fingerprint ≠ (above (-0.0)).fingerprint) := by
  intro above
  have finite : (above (-0.0)).IsFinite := by decide +kernel
  have reads : (above (-0.0)).ReadsBack := by decide +kernel
  have finite' : (above 0).IsFinite := by decide +kernel
  have reads' : (above 0).ReadsBack := by decide +kernel
  have different : above 0 ≠ above (-0.0) := by decide +kernel
  obtain ⟨read, determined⟩ := determined_by_text finite reads
  obtain ⟨texts, fingerprints⟩ := determined (above 0) finite' reads'
  exact ⟨finite, reads, read, mt texts different, fun apart => mt (fingerprints apart) different⟩

end Descriptor

end ArgoQuery
