import ArgoQuery.Proofs.Json.NumberText
import ArgoQuery.Proofs.Json.QuotedText

/-!
# What is written is read back

A value in the compact form is read as it was written, apart from its objects, which the reader
arranges. Main statements: `JsonTree.ofText?_compact` for the tree, which keeps the order of all
fields, and `Json.ofText?_compact` for the value. A value is *legible* if its whole numbers fit 64
bits, its fractional numbers are read back on their own, and it is nested no deeper than the reader
allows.

Each kind of value has its own lemma on how it is taken off the front of a text (`ReadsAs`), and the
induction is over the legible values. The reader is given steps for a text twice as long as the one
it reads: only the steps into an array or an object leave the text as long as it was.
-/

namespace ArgoQuery

open NumberLiteral (EndsNumber)

/-- What is encoded item by item is decoded item by item. -/
theorem mapM_map_eq_pure {m : Type → Type} [Monad m] [LawfulMonad m] {Item Code : Type}
    {encode : Item → Code} {decode : Code → m Item}
    (decoded : ∀ item, decode (encode item) = pure item) (items : List Item) :
    (items.map encode).mapM decode = pure items := by
  have each : decode ∘ encode = fun item => pure item := funext decoded
  rw [List.mapM_map, each, List.mapM_pure, List.map_id']

namespace Json

/-- Whether a value can be read back where values may be nested as deep as given. -/
inductive IsLegible : (depth : Nat) → Json → Prop
  | null {depth : Nat} : IsLegible depth .null
  | bool {depth : Nat} (flag : Bool) : IsLegible depth (.bool flag)
  | int {depth : Nat} {value : Int} (fits : fitsWord 64 value = true) : IsLegible depth (.int value)
  | float {depth : Nat} {value : Binary64} (reads : value.ReadsBack) : IsLegible depth (.float value)
  | text {depth : Nat} (value : String) : IsLegible depth (.text value)
  | array {depth : Nat} {items : List Json} (each : ∀ item ∈ items, IsLegible depth item) :
      IsLegible (depth + 1) (.array items)
  | object {depth : Nat} {fields : List (String × Json)}
      (each : ∀ field ∈ fields, IsLegible depth field.2) : IsLegible (depth + 1) (.object fields)

/-- The value of a field is smaller than the fields, so an induction can go down to it. -/
theorem sizeOf_snd_lt {field : String × Json} {fields : List (String × Json)}
    (member : field ∈ fields) : sizeOf field.2 < sizeOf fields := by
  have := List.sizeOf_lt_of_mem member
  obtain ⟨name, value⟩ := field
  simp at this ⊢
  omega

/-- The tree of a value's text. -/
def tree : Json → JsonTree
  | null => .null
  | bool flag => .bool flag
  | int value => .number (.ofInt value)
  | float value =>
    match NumberLiteral.split? (writeFloat value []) with
    | some (literal, _) => .number literal
    | none => .null
  | text value => .text (some value)
  | array items => .array (items.map tree)
  | object fields => .object (fields.map fun field => (some field.1, field.2.tree))
decreasing_by
  · have := List.sizeOf_lt_of_mem ‹_›
    simp
    omega
  · have := sizeOf_snd_lt ‹_›
    simp
    omega

/-- The value with its objects arranged. -/
def arranged (arrange : List (String × Json) → Json) : Json → Json
  | array items => .array (items.map (arranged arrange))
  | object fields => arrange (fields.map fun field => (field.1, field.2.arranged arrange))
  | value => value
decreasing_by
  · have := List.sizeOf_lt_of_mem ‹_›
    simp
    omega
  · have := sizeOf_snd_lt ‹_›
    simp
    omega

/-- Whether a text starts like a value: with a character that is no blank and closes nothing. -/
def StartsValue (text : List Char) : Prop :=
  ∃ c later, text = c :: later ∧ 32 < c.toNat ∧ c ≠ ']' ∧ c ≠ '\x7d'

/-- Whether the reader takes a value off whatever it is followed by, and makes the tree of it. -/
structure ReadsAs (value : Json) (tree : JsonTree) : Prop where
  starts : ∀ rest, StartsValue (value.write rest)
  longer : ∀ rest, rest.length < (value.write rest).length
  split : ∀ rest fuel, EndsNumber rest → 2 * (value.write rest).length ≤ fuel →
    JsonTree.split? fuel (value.write rest) = some (tree, rest)

/-- A character that continues no number ends one. -/
theorem endsNumber_cons {c : Char} (ends : c.isDigit = false ∧ c ≠ '.' ∧ c ≠ 'e' ∧ c ≠ 'E')
    (rest : List Char) : EndsNumber (c :: rest) := by
  intro first same
  cases same
  exact ends

/-- A value whose text does not depend on what follows is taken off in one step. -/
theorem readsAs_of_text {value : Json} {tree : JsonTree} (text : List Char)
    (written : ∀ rest, value.write rest = text ++ rest) (starts : StartsValue text)
    (step : ∀ rest fuel, EndsNumber rest →
      JsonTree.split? (fuel + 1) (text ++ rest) = some (tree, rest)) : value.ReadsAs tree := by
  obtain ⟨c, later, rfl, visible, unclosed⟩ := starts
  constructor
  case starts =>
    intro rest
    exact ⟨c, later ++ rest, written rest, visible, unclosed⟩
  case longer =>
    intro rest
    simp only [written, List.cons_append, List.length_cons, List.length_append]
    omega
  case split =>
    intro rest fuel ends enough
    simp only [written, List.cons_append, List.length_cons] at enough
    obtain ⟨fuel, rfl⟩ : ∃ left, fuel = left + 1 := Nat.exists_eq_add_of_le' (by omega)
    rw [written]
    exact step rest fuel ends

/-- The reader takes null off as it is written. -/
theorem readsAs_null : null.ReadsAs .null :=
  readsAs_of_text "null".toList (fun _ => rfl) ⟨'n', _, rfl, by decide⟩
    fun _ _ _ => rfl

/-- The reader takes a truth value off as it is written. -/
theorem readsAs_bool (flag : Bool) : (bool flag).ReadsAs (.bool flag) := by
  cases flag with
  | false =>
    exact readsAs_of_text "false".toList (fun _ => rfl) ⟨'f', _, rfl, by decide⟩
      fun _ _ _ => rfl
  | true =>
    exact readsAs_of_text "true".toList (fun _ => rfl) ⟨'t', _, rfl, by decide⟩
      fun _ _ _ => rfl

/-- A number is taken off as far as it is one. -/
theorem readsAs_number {value : Json} {text : List Char} {literal : NumberLiteral}
    (written : ∀ rest, value.write rest = text ++ rest)
    (split : NumberLiteral.split? text = some (literal, [])) : value.ReadsAs (.number literal) := by
  obtain ⟨c, later, rfl, first⟩ := NumberLiteral.head_of_split? split
  have visible : 32 < c.toNat := by
    rcases first with rfl | digit
    · decide
    · exact IsVisible.of_digits (List.forall_mem_singleton.mpr digit) c List.mem_cons_self
  refine readsAs_of_text _ written ⟨c, later, rfl, visible, ?_⟩ ?_
  · constructor
    · rintro rfl
      revert first
      decide
    · rintro rfl
      revert first
      decide
  · intro rest fuel ends
    have read := NumberLiteral.split?_append ends split
    rw [List.nil_append] at read
    rw [List.cons_append] at read ⊢
    rw [JsonTree.split?, JsonTree.skipSpace_cons visible]
    split
    case h_7 => rw [read, Option.map_some]
    all_goals
      rename_i same
      rw [(List.cons.inj same).1] at first
      exact absurd first (by decide)

/-- The reader takes a text off as it is written. -/
theorem readsAs_text (value : String) : (text value).ReadsAs (.text (some value)) := by
  have written (rest : List Char) : (text value).write rest =
      '"' :: (value.toList.flatMap escape ++ ['"']) ++ rest := by
    rw [write, writeText]
    simp
  refine readsAs_of_text _ written ⟨'"', _, rfl, by decide⟩ ?_
  intro rest fuel _
  have step : JsonTree.split? (fuel + 1) ((text value).write rest) =
      (splitQuoted? (value.toList.flatMap escape ++ '"' :: rest)).map fun read =>
        (JsonTree.text read.1, read.2) := rfl
  rw [← written, step, splitQuoted?_escape, Option.map_some]

/-- An item that is not the last is followed by a comma. -/
theorem writeItems_next (item next : Json) (items : List Json) (rest : List Char) :
    writeItems (item :: next :: items) rest =
      item.write (',' :: writeItems (next :: items) rest) := rfl

/-- Behind a bracket there are items, unless it is closed at once. -/
theorem split?_bracket {text : List Char} (starts : StartsValue text) (fuel : Nat) :
    JsonTree.split? (fuel + 1) ('[' :: text) =
      (JsonTree.splitItems? fuel text).map fun (items, after) => (.array items, after) := by
  obtain ⟨c, later, rfl, visible, unclosed, -⟩ := starts
  rw [JsonTree.split?, JsonTree.skipSpace_cons (by decide)]
  simp only [JsonTree.skipSpace_cons visible]
  split
  case h_1 same => exact absurd (List.cons.inj same).1 unclosed
  case h_2 => rfl

/-- The item before the bracket is the last one taken off. -/
theorem splitItems?_last {fuel : Nat} {text rest : List Char} {item : JsonTree}
    (first : JsonTree.split? fuel text = some (item, ']' :: rest)) :
    JsonTree.splitItems? (fuel + 1) text = some ([item], rest) := by
  rw [JsonTree.splitItems?, first]
  rfl

/-- The item before a comma is taken off, and then those behind it. -/
theorem splitItems?_next {fuel : Nat} {text later rest : List Char} {item : JsonTree}
    {items : List JsonTree} (first : JsonTree.split? fuel text = some (item, ',' :: later))
    (others : JsonTree.splitItems? fuel later = some (items, rest)) :
    JsonTree.splitItems? (fuel + 1) text = some (item :: items, rest) := by
  have step : JsonTree.splitItems? (fuel + 1) text =
      (JsonTree.splitItems? fuel later).bind fun (items, left) => some (item :: items, left) := by
    rw [JsonTree.splitItems?, first]
    rfl
  rw [step, others, Option.bind_some]

section Items

variable {items : List Json} {make : Json → JsonTree}
  (each : ∀ item ∈ items, item.ReadsAs (make item))

include each

/-- The items are taken off up to the bracket. -/
theorem splitItems?_writeItems (nonempty : items ≠ []) (rest : List Char) (fuel : Nat)
    (enough : 2 * (writeItems items (']' :: rest)).length + 1 ≤ fuel) :
    JsonTree.splitItems? fuel (writeItems items (']' :: rest)) = some (items.map make, rest) := by
  induction items generalizing fuel with
  | nil => exact absurd rfl nonempty
  | cons item items ih =>
    obtain ⟨fuel, rfl⟩ : ∃ left, fuel = left + 1 := Nat.exists_eq_add_of_le' (by omega)
    obtain ⟨reads, others⟩ := List.forall_mem_cons.mp each
    cases items with
    | nil =>
      refine splitItems?_last (reads.split _ fuel (endsNumber_cons (by decide) rest) ?_)
      rw [writeItems] at enough
      omega
    | cons next items =>
      rw [writeItems_next] at enough ⊢
      have shorter := reads.longer (',' :: writeItems (next :: items) (']' :: rest))
      rw [List.length_cons] at shorter
      refine splitItems?_next (reads.split _ fuel (endsNumber_cons (by decide) _) ?_)
        (ih others (List.cons_ne_nil _ _) fuel ?_) <;> omega

/-- Items are written in front of what follows them. -/
theorem length_writeItems (rest : List Char) : rest.length ≤ (writeItems items rest).length := by
  induction items with
  | nil => exact Nat.le_refl _
  | cons item items ih =>
    obtain ⟨reads, others⟩ := List.forall_mem_cons.mp each
    cases items with
    | nil => exact (reads.longer rest).le
    | cons next items =>
      have shorter := reads.longer (',' :: writeItems (next :: items) rest)
      have tail := ih others
      rw [writeItems_next]
      rw [List.length_cons] at shorter
      omega

/-- Items start like a value. -/
theorem startsValue_writeItems (nonempty : items ≠ []) (rest : List Char) :
    StartsValue (writeItems items rest) := by
  obtain ⟨item, items, rfl⟩ := List.exists_cons_of_ne_nil nonempty
  have reads := each item List.mem_cons_self
  cases items with
  | nil => exact reads.starts rest
  | cons next items => exact reads.starts _

/-- The reader takes an array off as it is written, if it does so for the items. -/
theorem readsAs_array : (array items).ReadsAs (.array (items.map make)) where
  starts rest := ⟨'[', _, by rw [write], by decide⟩
  longer rest := by
    have := length_writeItems each (']' :: rest)
    rw [write, List.length_cons]
    rw [List.length_cons] at this
    omega
  split rest fuel _ enough := by
    rw [write, List.length_cons] at enough
    obtain ⟨fuel, rfl⟩ : ∃ left, fuel = left + 1 := Nat.exists_eq_add_of_le' (by omega)
    rw [write]
    cases items with
    | nil => rfl
    | cons item items =>
      have nonempty : item :: items ≠ [] := List.cons_ne_nil _ _
      rw [split?_bracket (startsValue_writeItems each nonempty _),
        splitItems?_writeItems each nonempty rest fuel (by omega), Option.map_some]

end Items

/-- A field that is not the last is followed by a comma. -/
theorem writeFields_next (name : String) (value : Json) (next : String × Json)
    (fields : List (String × Json)) (rest : List Char) :
    writeFields ((name, value) :: next :: fields) rest =
      writeText name (':' :: value.write (',' :: writeFields (next :: fields) rest)) := rfl

/-- Fields start with a quote. -/
theorem writeFields_eq_cons {fields : List (String × Json)} (nonempty : fields ≠ [])
    (rest : List Char) : ∃ later, writeFields fields rest = '"' :: later := by
  obtain ⟨⟨name, value⟩, fields, rfl⟩ := List.exists_cons_of_ne_nil nonempty
  cases fields with
  | nil => exact ⟨_, rfl⟩
  | cons next fields => exact ⟨_, rfl⟩

/-- Behind a brace there are fields, unless it is closed at once. -/
theorem split?_brace (later : List Char) (fuel : Nat) :
    JsonTree.split? (fuel + 1) ('\x7b' :: '"' :: later) =
      (JsonTree.splitFields? fuel ('"' :: later)).map fun (fields, after) =>
        (.object fields, after) := rfl

/-- A text is written in front of what follows it, at least as its quotes. -/
theorem length_writeText (name : String) (rest : List Char) :
    rest.length < (writeText name rest).length := by
  simp only [writeText, List.length_cons, List.length_append]
  omega

/-- A name and a colon are taken off, and then a value. -/
theorem splitFields?_writeText (name : String) (start : List Char) (fuel : Nat) :
    JsonTree.splitFields? (fuel + 1) (writeText name (':' :: start)) =
      (JsonTree.split? fuel start).bind fun (value, rest) =>
        match JsonTree.skipSpace rest with
        | '\x7d' :: after => some ([(some name, value)], after)
        | ',' :: after =>
          (JsonTree.splitFields? fuel after).bind fun (fields, left) =>
            some ((some name, value) :: fields, left)
        | _ => none := by
  rw [writeText, JsonTree.splitFields?, JsonTree.skipSpace_cons (by decide)]
  simp only [splitQuoted?_escape]
  rfl

section Fields

variable {fields : List (String × Json)} {make : Json → JsonTree}
  (each : ∀ field ∈ fields, field.2.ReadsAs (make field.2))

include each

/-- The fields are taken off up to the bracket. -/
theorem splitFields?_writeFields (nonempty : fields ≠ []) (rest : List Char) (fuel : Nat)
    (enough : 2 * (writeFields fields ('\x7d' :: rest)).length + 1 ≤ fuel) :
    JsonTree.splitFields? fuel (writeFields fields ('\x7d' :: rest)) =
      some (fields.map fun field => (some field.1, make field.2), rest) := by
  induction fields generalizing fuel with
  | nil => exact absurd rfl nonempty
  | cons field fields ih =>
    obtain ⟨fuel, rfl⟩ : ∃ left, fuel = left + 1 := Nat.exists_eq_add_of_le' (by omega)
    obtain ⟨name, value⟩ := field
    have reads : value.ReadsAs (make value) := each _ List.mem_cons_self
    have others := (List.forall_mem_cons.mp each).2
    cases fields with
    | nil =>
      have named := length_writeText name (':' :: value.write ('\x7d' :: rest))
      rw [writeFields, writeField] at enough ⊢
      rw [List.length_cons] at named
      rw [splitFields?_writeText,
        reads.split _ fuel (endsNumber_cons (by decide) rest) (by omega)]
      rfl
    | cons next fields =>
      rw [writeFields_next] at enough ⊢
      have named := length_writeText name
        (':' :: value.write (',' :: writeFields (next :: fields) ('\x7d' :: rest)))
      have shorter := reads.longer (',' :: writeFields (next :: fields) ('\x7d' :: rest))
      rw [List.length_cons] at shorter named
      have later := ih others (List.cons_ne_nil _ _) fuel (by omega)
      rw [splitFields?_writeText,
        reads.split _ fuel (endsNumber_cons (by decide) _) (by omega), Option.bind_some]
      simp only [JsonTree.skipSpace_cons (by decide : 32 < ','.toNat), later]
      rfl

/-- Fields are written in front of what follows them. -/
theorem length_writeFields (rest : List Char) : rest.length ≤ (writeFields fields rest).length := by
  induction fields with
  | nil => exact Nat.le_refl _
  | cons field fields ih =>
    obtain ⟨name, value⟩ := field
    have reads : value.ReadsAs (make value) := each _ List.mem_cons_self
    have others := (List.forall_mem_cons.mp each).2
    cases fields with
    | nil =>
      have named := length_writeText name (':' :: value.write rest)
      have shorter := reads.longer rest
      rw [writeFields, writeField]
      rw [List.length_cons] at named
      omega
    | cons next fields =>
      have named := length_writeText name
        (':' :: value.write (',' :: writeFields (next :: fields) rest))
      have shorter := reads.longer (',' :: writeFields (next :: fields) rest)
      have tail := ih others
      rw [writeFields_next]
      rw [List.length_cons] at shorter named
      omega

/-- The reader takes an object off as it is written, if it does so for the values of the fields. -/
theorem readsAs_object : (object fields).ReadsAs
    (.object (fields.map fun field => (some field.1, make field.2))) where
  starts rest := ⟨'\x7b', _, by rw [write], by decide⟩
  longer rest := by
    have := length_writeFields each ('\x7d' :: rest)
    rw [write, List.length_cons]
    rw [List.length_cons] at this
    omega
  split rest fuel _ enough := by
    rw [write, List.length_cons] at enough
    obtain ⟨fuel, rfl⟩ : ∃ left, fuel = left + 1 := Nat.exists_eq_add_of_le' (by omega)
    rw [write]
    cases fields with
    | nil => rfl
    | cons field fields =>
      have nonempty : field :: fields ≠ [] := List.cons_ne_nil _ _
      obtain ⟨later, written⟩ := writeFields_eq_cons nonempty ('\x7d' :: rest)
      have step := split?_brace later fuel
      rw [← written, splitFields?_writeFields each nonempty rest fuel (by omega)] at step
      exact step

end Fields

/-- A legible value is taken off a text as its tree. -/
theorem IsLegible.readsAs {depth : Nat} {value : Json} (legible : IsLegible depth value) :
    value.ReadsAs value.tree := by
  induction legible with
  | null =>
    rw [tree]
    exact readsAs_null
  | bool flag =>
    rw [tree]
    exact readsAs_bool flag
  | @int _ value _ =>
    rw [tree]
    exact readsAs_number (fun _ => by rw [write]) (NumberLiteral.split?_signedDigits value)
  | @float _ value reads =>
    obtain ⟨literal, split, -⟩ := reads.exists_literal
    rw [tree, split]
    refine readsAs_number (fun rest => ?_) split
    rw [write, writeFloat, writeFloat]
    split_ifs <;> rw [List.append_nil]
  | text value =>
    rw [tree]
    exact readsAs_text value
  | array _ each =>
    rw [tree]
    exact readsAs_array each
  | object _ each =>
    rw [tree]
    exact readsAs_object each

section Evaluate

variable {arrange : List (String × Json) → Json} {depth : Nat} {make : Json → JsonTree}
  {result : Json → Json}

/-- Items that evaluate one by one evaluate together. -/
theorem evaluateItems?_map {items : List Json}
    (each : ∀ item ∈ items, (make item).evaluate? arrange depth = some (result item)) :
    JsonTree.evaluateItems? arrange depth (items.map make) = some (items.map result) := by
  induction items with
  | nil => rfl
  | cons item items ih =>
    obtain ⟨first, others⟩ := List.forall_mem_cons.mp each
    rw [List.map_cons, JsonTree.evaluateItems?, first, ih others]
    rfl

/-- Fields whose values evaluate one by one evaluate together. -/
theorem evaluateFields?_map {fields : List (String × Json)}
    (each : ∀ field ∈ fields, (make field.2).evaluate? arrange depth = some (result field.2)) :
    JsonTree.evaluateFields? arrange depth (fields.map fun field => (some field.1, make field.2)) =
      some (fields.map fun field => (field.1, result field.2)) := by
  induction fields with
  | nil => rfl
  | cons field fields ih =>
    obtain ⟨first, others⟩ := List.forall_mem_cons.mp each
    rw [List.map_cons, JsonTree.evaluateFields?, JsonTree.evaluateField?, first, ih others]
    rfl

end Evaluate

/-- A legible value is what its tree stands for, apart from the arrangement of its objects. -/
theorem IsLegible.evaluate?_tree (arrange : List (String × Json) → Json) {depth : Nat}
    {value : Json} (legible : IsLegible depth value) :
    value.tree.evaluate? arrange depth = some (value.arranged arrange) := by
  induction legible with
  | null => simp only [tree, JsonTree.evaluate?, arranged]
  | bool flag => simp only [tree, JsonTree.evaluate?, arranged]
  | int fits =>
    simp only [tree, JsonTree.evaluate?, arranged]
    exact NumberLiteral.toJson?_ofInt fits
  | float reads =>
    obtain ⟨literal, split, value⟩ := reads.exists_literal
    simp only [tree, split, JsonTree.evaluate?, arranged]
    exact value
  | text value => simp only [tree, JsonTree.evaluate?, arranged, Option.map_some]
  | array _ each =>
    rw [tree, JsonTree.evaluate?, evaluateItems?_map each, arranged]
    rfl
  | object _ each =>
    rw [tree, JsonTree.evaluate?, evaluateFields?_map each, arranged]
    rfl

end Json

/-- The text of a legible value is read as its tree. -/
theorem JsonTree.ofText?_compact {depth : Nat} {value : Json}
    (legible : value.IsLegible depth) : JsonTree.ofText? value.compact = some value.tree := by
  have nothing : EndsNumber [] := by
    rintro c ⟨⟩
  have split := legible.readsAs.split [] (2 * (value.write []).length + 2) nothing
    (Nat.le_add_right ..)
  rw [JsonTree.ofText?, Json.compact, String.toList_ofList]
  simp only [split]
  rfl

/-- The text of a legible value is read as the value, its objects sorted. -/
theorem Json.ofText?_compact {value : Json} (legible : value.IsLegible maxDepth) :
    ofText? value.compact = some (value.arranged sortedObject) := by
  rw [ofText?, JsonTree.ofText?_compact legible, Option.bind_some]
  exact legible.evaluate?_tree sortedObject

end ArgoQuery
