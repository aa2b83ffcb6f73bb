import ArgoQuery.Table.Value

/-!
# Rows

A row is an ordered list of named fields. A field that holds null reads like one that is missing.
-/

namespace ArgoQuery

/-- A row of a collection: its fields in their order. -/
structure Row where
  fields : List (String × Value) := []
deriving DecidableEq, Repr

namespace Row

/-- A row without fields. -/
def empty : Row := {}

/-- How many fields a row has. -/
def size (row : Row) : Nat := row.fields.length

/-- The fields with one set: where the name is known in its place, otherwise at the end. -/
def insertField (name : String) (value : Value) : List (String × Value) → List (String × Value)
  | [] => [(name, value)]
  | (other, old) :: rest =>
    if other = name then (name, value) :: rest else (other, old) :: insertField name value rest

/-- Sets a field: one of that name keeps its place, and a new one goes to the end. -/
def insert (row : Row) (name : String) (value : Value) : Row :=
  ⟨insertField name value row.fields⟩

/-- A row of the given fields, set in order. -/
def ofList (fields : List (String × Value)) : Row :=
  fields.foldl (fun row (name, value) => row.insert name value) empty

/-- What a field holds, null included. -/
def stored? (row : Row) (name : String) : Option Value :=
  (row.fields.find? fun (field, _) => field == name).map Prod.snd

/-- The value of a field, if it has one. -/
def get? (row : Row) (name : String) : Option Value :=
  (row.stored? name).filter fun value => !value.isNull

/-- What is under a name, as a number. -/
def number? (row : Row) (name : String) : Option Binary64 := (row.get? name).bind Value.number?

/-- What is under a name, as a key. -/
def key? (row : Row) (name : String) : Option String := (row.get? name).bind Value.key?

/-- Takes the first field of a name out of the others. -/
def extract? (name : String) :
    List (String × Value) → Option ((String × Value) × List (String × Value))
  | [] => none
  | field :: rest =>
    if field.1 = name then some (field, rest)
    else (extract? name rest).map fun (found, others) => (found, field :: others)

/-- The fields of the given names in the order of the names, then the others as they were. -/
def reorderFields : List String → List (String × Value) → List (String × Value)
  | [], fields => fields
  | name :: names, fields =>
    match extract? name fields with
    | some (field, others) => field :: reorderFields names others
    | none => reorderFields names fields

/-- Puts the fields of the given names first, in the order of the names. -/
def reorder (row : Row) (names : List String) : Row := ⟨reorderFields names row.fields⟩

/-- The fields of the given names only, in the order of the names. -/
def project (row : Row) (names : List String) : Row :=
  ofList (names.filterMap fun name => (row.stored? name).map (name, ·))

end Row

end ArgoQuery
