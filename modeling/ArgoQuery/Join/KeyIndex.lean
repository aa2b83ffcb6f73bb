import ArgoQuery.Descriptor.Column
import ArgoQuery.Table.Row

/-!
# The index of positions

The rows of the driving side are indexed by float and cycle. Of several positions of one cycle the
last one counts. Beside the positions the index lists the floats in ascending order, each with its
cycles: those are the floats that are fetched.
-/

namespace ArgoQuery.Join

/-- A float and one of its cycles, both as keys. -/
structure CycleKey where
  float : String
  cycle : String
deriving DecidableEq, Repr

/-- The key of a row that has both of its parts. -/
def CycleKey.ofRow? (row : Row) : Option CycleKey := do
  return ⟨← row.key? Column.floatId.name, ← row.key? Column.cycleNumber.name⟩

/-- The last of some rows that have the key. -/
def CycleKey.last? (key : CycleKey) (rows : List Row) : Option Row :=
  (rows.filter fun row => CycleKey.ofRow? row = some key).getLast?

/-- What a position adds to the measurements of its cycle. -/
structure Position where
  latitude : Value
  longitude : Value
  julianDay : Value
deriving DecidableEq, Repr

namespace Position

/-- The position of a row, with null for what it does not have. -/
def ofRow (row : Row) : Position :=
  let valueOf (column : Column) := (row.get? column.name).getD .null
  ⟨valueOf .latitude, valueOf .longitude, valueOf .julianDay⟩

/-- The row with the position set. -/
def onto (position : Position) (row : Row) : Row :=
  ((row.insert Column.latitude.name position.latitude).insert
    Column.longitude.name position.longitude).insert Column.julianDay.name position.julianDay

end Position

/-- The positions of all cycles, and the cycles of all floats. -/
structure KeyIndex where
  positions : List (CycleKey × Position) := []
  cyclesByFloat : List (String × List String) := []
  /-- How many positions were replaced. -/
  duplicates : Nat := 0
deriving DecidableEq, Repr

namespace KeyIndex

/-- The index of no rows. -/
def empty : KeyIndex := {}

/-- The positions with one set, in its place if there is one for its key. -/
def putPosition (key : CycleKey) (position : Position) :
    List (CycleKey × Position) → List (CycleKey × Position)
  | [] => [(key, position)]
  | (other, old) :: rest =>
    if other = key then (key, position) :: rest else (other, old) :: putPosition key position rest

/-- The cycles by ascending float, with one more. -/
def addCycle (key : CycleKey) : List (String × List String) → List (String × List String)
  | [] => [(key.float, [key.cycle])]
  | (float, cycles) :: rest =>
    if key.float = float then
      (float, if key.cycle ∈ cycles then cycles else cycles ++ [key.cycle]) :: rest
    else if key.float < float then (key.float, [key.cycle]) :: (float, cycles) :: rest
    else (float, cycles) :: addCycle key rest

/-- The position under a key. -/
def position? (index : KeyIndex) (key : CycleKey) : Option Position := index.positions.lookup key

/-- The cycles of a float. -/
def cyclesOf (index : KeyIndex) (float : String) : List String :=
  (index.cyclesByFloat.lookup float).getD []

/-- The floats in ascending order. -/
def floats (index : KeyIndex) : List String := index.cyclesByFloat.map Prod.fst

/-- Adds a position under its key. It replaces one that is there, which counts as a duplicate. -/
def add (index : KeyIndex) (key : CycleKey) (position : Position) : KeyIndex where
  positions := putPosition key position index.positions
  cyclesByFloat := addCycle key index.cyclesByFloat
  duplicates := index.duplicates + if (index.position? key).isSome then 1 else 0

/-- Indexes a row; one that lacks a key is left out. -/
def addRow (index : KeyIndex) (row : Row) : KeyIndex :=
  match CycleKey.ofRow? row with
  | some key => index.add key (Position.ofRow row)
  | none => index

/-- The index of rows in their order. -/
def ofRows (rows : List Row) : KeyIndex := rows.foldl addRow empty

end KeyIndex

end ArgoQuery.Join
