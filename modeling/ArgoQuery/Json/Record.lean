import ArgoQuery.Json.Reader

/-!
# Records written in JSON

A record of named fields is written as an object, in which no field is repeated and fields of other
names say nothing, or as an array that lists the values in the order of the names. An alternative
without content is written as its name, or as an object with a field of that name and no value.
-/

namespace ArgoQuery

namespace Json

/-- The values of a record's fields under their names. An array may end before the last name as
long as the fields that it leaves out are among the `defaulted` ones. -/
def record? (names defaulted : List String) : Json → Option (List (String × Json))
  | object fields =>
    let known := fields.filter fun (name, _) => names.contains name
    if (known.map Prod.fst).Nodup then some known else none
  | array items =>
    if items.length ≤ names.length ∧ (names.drop items.length).all defaulted.contains then
      some (names.zip items)
    else none
  | _ => none

/-- The same for an array that may go on after the last name. -/
def openRecord? (names defaulted : List String) : Json → Option (List (String × Json))
  | array items => (array (items.take names.length)).record? names defaulted
  | json => json.record? names defaulted

/-- A way to read records: from the names of the fields and those that may be left out. -/
abbrev RecordReader := (names defaulted : List String) → Json → Option (List (String × Json))

/-- The name of an alternative without content. -/
def choice? (isEmpty : Json → Bool) : Json → Option String
  | text name => some name
  | object [(name, content)] => if isEmpty content then some name else none
  | _ => none

/-- Whether a value is null. -/
def isNull : Json → Bool
  | null => true
  | _ => false

/-- The items of an array. -/
def items? : Json → Option (List Json)
  | array items => some items
  | _ => none

/-- A whole number of the given count of bits, without a sign. -/
def unsigned? (bits : Nat) : Json → Option Nat
  | int value => if fitsUnsigned bits value then some value.toNat else none
  | _ => none

/-- A number; a whole one has to fit 64 bits. -/
def number? : Json → Option Binary64
  | int value => if fitsWord 64 value then some (.ofInt value) else none
  | float value => some value
  | _ => none

/-- The fields of an object. -/
def fields? : Json → Option (List (String × Json))
  | object fields => some fields
  | _ => none

mutual

/-- Whether every whole number in a value fits 64 bits. -/
def numbersFit : Json → Bool
  | int value => fitsWord 64 value
  | array items => itemsFit items
  | object fields => fieldsFit fields
  | _ => true

/-- Whether the numbers of items fit. -/
def itemsFit : List Json → Bool
  | [] => true
  | item :: items => item.numbersFit && itemsFit items

/-- Whether the numbers of fields fit. -/
def fieldsFit : List (String × Json) → Bool
  | [] => true
  | field :: fields => fieldFits field && fieldsFit fields

/-- Whether the numbers of a field fit. -/
def fieldFits : String × Json → Bool
  | (_, value) => value.numbersFit

end

/-- Fields of any names and values, whose whole numbers fit 64 bits. -/
def anyFields? (json : Json) : Option (List (String × Json)) := do
  let fields ← json.fields?
  if fieldsFit fields then some fields else none

end Json

/-- The record that a tree stands for: of an object only the fields of the given names are
evaluated, and they keep their order and repetitions at every level. -/
def JsonTree.record? (names : List String) : JsonTree → Option (List (String × Json))
  | object fields => do
    let known ← fields.filterMapM fun (name?, value) => do
      let name ← name?
      if names.contains name then
        return some (name, ← value.evaluate? Json.object (Json.maxDepth - 1))
      else return none
    (Json.object known).record? names []
  | array items => do
    let values ← evaluateItems? Json.object (Json.maxDepth - 1) items
    (Json.array values).record? names []
  | _ => none

end ArgoQuery
