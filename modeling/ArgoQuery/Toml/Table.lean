import ArgoQuery.Json.Reader

/-!
# Tables under construction

A table is filled by several statements, and what may still be added to it depends on how it came
about: by a header of its own, on the way to the table of a longer header, or by a dotted key. A
table may get one header of its own, and a dotted key adds to tables without one.
-/

namespace ArgoQuery.Toml

/-- How a table came about. -/
inductive Origin where
  | header
  | implied
  | dotted
deriving DecidableEq, Repr

/-- What a name stands for. -/
inductive Node where
  /-- A value, with its own tables and arrays, to which nothing can be added. -/
  | value (json : Json)
  | table (origin : Origin) (fields : List (String × Node))
  /-- Tables of one name, of which headers extend the last. -/
  | tables (items : List (List (String × Node)))

/-- The fields of a table by name. -/
abbrev Fields := List (String × Node)

namespace Node

mutual

/-- A node as a value, with the fields of tables sorted by name. -/
def toJson : Node → Json
  | value json => json
  | table _ fields => .sortedObject (fieldsToJson fields)
  | tables items => .array (itemsToJson items)

/-- The tables of a list as values. -/
def itemsToJson : List Fields → List Json
  | [] => []
  | item :: items => .sortedObject (fieldsToJson item) :: itemsToJson items

/-- The fields of a table with their nodes as values. -/
def fieldsToJson : List (String × Node) → List (String × Json)
  | [] => []
  | field :: fields => fieldToJson field :: fieldsToJson fields

/-- A field with its node as a value. -/
def fieldToJson : String × Node → String × Json
  | (name, node) => (name, node.toJson)

end

end Node

namespace Fields

/-- The fields with one set, in its place if it is there already. -/
def put (name : String) (node : Node) : Fields → Fields
  | [] => [(name, node)]
  | (other, old) :: rest =>
    if other = name then (name, node) :: rest else (other, old) :: put name node rest

/-- Changes the table that the names of a header lead to. Tables that are missing on the way are
implied; of tables of one name the last is meant. -/
def changeAt? (change : Fields → Option Fields) : List String → Fields → Option Fields
  | [], fields => change fields
  | name :: path, fields =>
    match fields.lookup name with
    | none => (changeAt? change path []).map fun inner => put name (.table .implied inner) fields
    | some (.table origin inner) =>
      (changeAt? change path inner).map fun inner => put name (.table origin inner) fields
    | some (.tables items) => do
      let changed ← changeAt? change path (← items.getLast?)
      return put name (.tables (items.dropLast ++ [changed])) fields
    | some (.value _) => none

/-- Gives a table its header. -/
def defineTable? (name : String) (fields : Fields) : Option Fields :=
  match fields.lookup name with
  | none => some (put name (.table .header []) fields)
  | some (.table .implied inner) => some (put name (.table .header inner) fields)
  | some _ => none

/-- Adds a table to those of its name. -/
def addTable? (name : String) (fields : Fields) : Option Fields :=
  match fields.lookup name with
  | none => some (put name (.tables [[]]) fields)
  | some (.tables items) => some (put name (.tables (items ++ [[]])) fields)
  | some _ => none

/-- Sets what a key stands for, which is nothing so far. The names before the last lead through
tables without a header of their own, and missing ones are made; a table in which a field is set
that way is a dotted one from then on. Of tables of one name the last is meant, but it has a header,
so the key can only lead through it. -/
def assign? (value : Json) : List String → Fields → Option Fields
  | [], _ => none
  | [name], fields =>
    if (fields.lookup name).isSome then none else some (put name (.value value) fields)
  | name :: next :: path, fields =>
    match fields.lookup name with
    | none =>
      (assign? value (next :: path) []).map fun inner => put name (.table .dotted inner) fields
    | some (.table .header _) | some (.value _) => none
    | some (.table origin inner) =>
      (assign? value (next :: path) inner).map fun inner =>
        put name (.table (if path.isEmpty then .dotted else origin) inner) fields
    | some (.tables items) => do
      let last ← if path.isEmpty then none else items.getLast?
      let changed ← assign? value (next :: path) last
      return put name (.tables (items.dropLast ++ [changed])) fields

/-- A table as a value, with its fields sorted by name. -/
def toJson (fields : Fields) : Json := .sortedObject (Node.fieldsToJson fields)

end Fields

end ArgoQuery.Toml
