import ArgoQuery.Proofs.Binary64.RoundingOrder
import ArgoQuery.Proofs.Json.RoundTrip
import ArgoQuery.Proofs.Json.SortedFields

/-!
# Canonical values

Two texts that differ in the order of their fields stand for the same value. It has a canonical
form, in which the fields of every object are sorted by name and no name occurs twice; a number that
is not finite, for which there is no text, is null there. What is written is read as its canonical
form (`ofText?_compact_canonical`), and a canonical value is its own (`IsCanonical.canonical_eq`).

A reader that has no integers beyond 64 bits with a sign takes a larger one for the nearest
fractional number, which leaves the value canonical: `IsCanonical.narrowed`.
-/

namespace ArgoQuery.Json

/-- The value with its fields sorted by name, the last of equal names counting, and with null in the
place of a number that is not finite. -/
def canonical : Json → Json
  | float value => if value.isFinite then float value else null
  | array items => array (items.map canonical)
  | object fields => sortedObject (fields.map fun field => (field.1, field.2.canonical))
  | value => value
decreasing_by
  · have := List.sizeOf_lt_of_mem ‹_›
    simp
    omega
  · have := sizeOf_snd_lt ‹_›
    simp
    omega

/-- Whether a value is one that a text can stand for, its fields sorted by name. -/
inductive IsCanonical : Json → Prop
  | null : IsCanonical .null
  | bool (flag : Bool) : IsCanonical (.bool flag)
  | int {value : Int} (fits : fitsWord 64 value = true) : IsCanonical (.int value)
  | float {value : Binary64} (finite : value.isFinite = true) : IsCanonical (.float value)
  | text (value : String) : IsCanonical (.text value)
  | array {items : List Json} (each : ∀ item ∈ items, IsCanonical item) : IsCanonical (.array items)
  | object {fields : List (String × Json)}
      (ascending : fields.Pairwise fun left right => left.1 < right.1)
      (each : ∀ field ∈ fields, IsCanonical field.2) : IsCanonical (.object fields)

/-- The canonical form of a canonical value is the value. -/
theorem IsCanonical.canonical_eq {value : Json} (proper : value.IsCanonical) :
    value.canonical = value := by
  induction proper with
  | float finite => rw [canonical, if_pos finite]
  | array _ each => rw [canonical, List.map_congr_left each, List.map_id']
  | @object fields ascending _ each =>
    have kept : fields.map (fun field => (field.1, field.2.canonical)) = fields := by
      refine (List.map_congr_left fun field member => ?_).trans (List.map_id fields)
      rw [each field member]
      rfl
    rw [canonical, kept, sortedObject_of_ascending ascending]
  | _ => rw [canonical] <;> simp

/-- What is not finite is not read back, for it has no text of its own. -/
theorem isFinite_of_readsBack {x : Binary64} (reads : x.ReadsBack) : x.isFinite = true := by
  by_contra infinite
  have text : (float x).compact = null.compact := by
    rw [compact, compact, write, write, writeFloat, if_neg infinite]
  have nothing : null.arranged sortedObject = null := by rw [arranged] <;> simp
  rw [Binary64.ReadsBack, text, ofText?_compact .null, nothing] at reads
  cases reads

/-- What the reader makes of a legible value is its canonical form. -/
theorem IsLegible.canonical_eq {depth : Nat} {value : Json} (legible : IsLegible depth value) :
    value.canonical = value.arranged sortedObject := by
  induction legible with
  | float reads =>
    rw [canonical, if_pos (isFinite_of_readsBack reads), arranged] <;> simp
  | array _ each => rw [canonical, arranged, List.map_congr_left each]
  | @object _ fields _ each =>
    have same : fields.map (fun field => (field.1, field.2.canonical)) =
        fields.map fun field => (field.1, field.2.arranged sortedObject) :=
      List.map_congr_left fun field member => by rw [each field member]
    rw [canonical, arranged, same]
  | _ => rw [canonical, arranged] <;> simp

/-- The text of a legible value is read as its canonical form. -/
theorem ofText?_compact_canonical {value : Json} (legible : value.IsLegible maxDepth) :
    ofText? value.compact = some value.canonical := by
  rw [ofText?_compact legible, legible.canonical_eq]

/-- The value with the nearest fractional number in the place of an integer that does not fit 64
bits with a sign. -/
def narrowed : Json → Json
  | int value => if fitsSigned 64 value then int value else float (.ofInt value)
  | array items => array (items.map narrowed)
  | object fields => object (fields.map fun field => (field.1, field.2.narrowed))
  | value => value
decreasing_by
  · have := List.sizeOf_lt_of_mem ‹_›
    simp
    omega
  · have := sizeOf_snd_lt ‹_›
    simp
    omega

/-- An integer that fits a word of 64 bits is no further from zero than two to the 64. -/
theorem natAbs_le_of_fitsWord {value : Int} (fits : fitsWord 64 value = true) :
    value.natAbs ≤ 2 ^ 64 := by
  simp only [fitsWord, fitsSigned, fitsUnsigned, Bool.or_eq_true, Bool.and_eq_true,
    decide_eq_true_eq, Nat.pow_eq] at fits
  omega

/-- A canonical value stays canonical when its large integers become fractional numbers. -/
theorem IsCanonical.narrowed {value : Json} (proper : value.IsCanonical) :
    value.narrowed.IsCanonical := by
  induction proper with
  | @int value fits =>
    rw [Json.narrowed]
    split_ifs
    · exact .int fits
    · exact .float (Binary64.isFinite_ofInt (natAbs_le_of_fitsWord fits))
  | array _ each =>
    rw [Json.narrowed]
    exact .array (List.forall_mem_map.mpr each)
  | object ascending _ each =>
    rw [Json.narrowed]
    exact .object (List.pairwise_map.mpr ascending) (List.forall_mem_map.mpr each)
  | null =>
    rw [Json.narrowed] <;> simp [IsCanonical.null]
  | bool flag =>
    rw [Json.narrowed] <;> simp [IsCanonical.bool]
  | float finite =>
    rw [Json.narrowed] <;> simp [IsCanonical.float finite]
  | text value =>
    rw [Json.narrowed] <;> simp [IsCanonical.text]

end ArgoQuery.Json
