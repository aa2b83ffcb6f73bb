import ArgoQuery.Descriptor
import ArgoQuery.Descriptor.Encoding
import ArgoQuery.Json.Record

/-!
# Descriptors read from JSON

Reading accepts what is written, and besides: fields in any order, whole numbers for fractional
ones, a descriptor without a label, and the other notations of records and alternatives. A condition
is told from the others by its field `op`, which stands first where a condition is an array.
-/

namespace ArgoQuery

/-- The element with the given name. -/
def findNamed? {α : Type} (nameOf : α → String) (items : List α) (name : String) : Option α :=
  items.find? fun item => nameOf item == name

/-- Whether the content of an alternative inside a condition is empty. -/
def isEmptyContent : Json → Bool
  | .null | .object [] => true
  | _ => false

/-- Reads the name of an upper end. -/
def UpperEnd.ofJson? (json : Json) : Option UpperEnd :=
  (json.choice? isEmptyContent).bind (findNamed? UpperEnd.name [.included, .excluded])

/-- Reads the name of a column. What counts as an empty value depends on where it stands. -/
def Column.ofJson? (isEmpty : Json → Bool) (json : Json) : Option Column :=
  (json.choice? isEmpty).bind (findNamed? Column.name Column.all)

/-- Reads the name of a side. -/
def Side.ofJson? (json : Json) : Option Side :=
  (json.choice? Json.isNull).bind (findNamed? Side.name [.locations, .measurements])

/-- Reads the name of a topic. -/
def Topic.ofJson? (json : Json) : Option Topic :=
  (json.choice? Json.isNull).bind (findNamed? Topic.name Topic.all)

namespace Condition

/-- Splits the kind of a condition off what its fields say. -/
def splitKind? : Json → Option (String × Json)
  | .object fields =>
    match fields.filter fun (name, _) => name == "op" with
    | [(_, .text kind)] => some (kind, .object (fields.filter fun (name, _) => name != "op"))
    | _ => none
  | .array (.text kind :: items) => some (kind, .array items)
  | _ => none

/-- Reads a condition by its kind. -/
def ofJson? (json : Json) : Option Condition := do
  let (kind, content) ← splitKind? json
  match kind with
  | "not_null" =>
    let fields ← content.record? ["column"] []
    return .notNull (← (← fields.lookup "column") |> Column.ofJson? isEmptyContent)
  | "between" =>
    let fields ← content.record? ["column", "min", "max", "upper"] []
    return .between (← (← fields.lookup "column") |> Column.ofJson? isEmptyContent)
      (← (← fields.lookup "min").number?) (← (← fields.lookup "max").number?)
      (← UpperEnd.ofJson? (← fields.lookup "upper"))
  | "wrapped" =>
    let fields ← content.record? ["column", "from", "to"] []
    return .wrapped (← (← fields.lookup "column") |> Column.ofJson? isEmptyContent)
      (← (← fields.lookup "from").number?) (← (← fields.lookup "to").number?)
  | _ => none

end Condition

namespace Descriptor

/-- The names of the fields of a descriptor. -/
def fieldNames : List String :=
  ["kind", "driving", "dependent", "join_key", "filters", "projection", "ordering",
    "location_label"]

/-- Reads a list of columns. -/
def columnsOfJson? (json : Json) : Option (List Column) := do
  (← json.items?).mapM (Column.ofJson? Json.isNull)

/-- Reads the two columns of a key. -/
def joinKeyOfJson? (json : Json) : Option (Column × Column) := do
  match ← columnsOfJson? json with
  | [first, second] => return (first, second)
  | _ => none

/-- A label, absent where it is null. -/
def labelOfJson? : Json → Option (Option String)
  | .null => some none
  | .text label => some (some label)
  | _ => none

/-- Reads a descriptor from its fields. Only the label may be missing. -/
def ofFields? (fields : List (String × Json)) : Option Descriptor := do
  return {
    topic := ← Topic.ofJson? (← fields.lookup "kind")
    driving := ← Side.ofJson? (← fields.lookup "driving")
    dependent := ← Side.ofJson? (← fields.lookup "dependent")
    joinKey := ← joinKeyOfJson? (← fields.lookup "join_key")
    conditions := ← (← (← fields.lookup "filters").items?).mapM Condition.ofJson?
    projection := ← columnsOfJson? (← fields.lookup "projection")
    ordering := ← columnsOfJson? (← fields.lookup "ordering")
    label := ← labelOfJson? ((fields.lookup "location_label").getD .null) }

/-- Reads a descriptor. -/
def ofJson? (json : Json) : Option Descriptor := do
  ofFields? (← json.record? fieldNames [])

/-- Reads the JSON text of a descriptor. -/
def ofText? (source : String) : Option Descriptor := do
  ofFields? (← (← JsonTree.ofText? source).record? fieldNames)

end Descriptor

end ArgoQuery
