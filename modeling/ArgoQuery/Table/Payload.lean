import ArgoQuery.Json
import ArgoQuery.Table.Row
import ArgoQuery.Text.Quoted
import ArgoQuery.WordSize

/-!
# Rows as JSON

Rows travel as an array of flat objects. A payload of any other shape is refused as a whole, and the
refusal names the first thing that is wrong with it.
-/

namespace ArgoQuery

namespace Value

/-- A value is written as the scalar that it is. -/
def toJson : Value → Json
  | null => .null
  | bool flag => .bool flag
  | int value => .int value.toInt
  | float value => .float value
  | text value => .text value

/-- The value of a scalar. An integer that does not fit 64 bits with a sign becomes a fractional
number. -/
def ofJson? : Json → Option Value
  | .null => some null
  | .bool flag => some (bool flag)
  | .int value =>
    some (if fitsSigned 64 value then int (Int64.ofInt value) else float (.ofInt value))
  | .float value => some (float value)
  | .text value => some (text value)
  | .array _ | .object _ => none

end Value

/-- Why a payload is refused. -/
inductive PayloadFault where
  | notArray
  | rowNotObject
  | fieldNotScalar (name : String)
deriving DecidableEq, Repr

/-- What a user is told of a payload that holds no rows. -/
def PayloadFault.message : PayloadFault → String
  | notArray => "Store response must be a JSON array."
  | rowNotObject => "Store row must be a JSON object."
  | fieldNotScalar name => "Store row field " ++ Text.quoted name ++ " must be a scalar."

namespace Row

/-- A row is written as an object of its fields. -/
def toJson (row : Row) : Json :=
  .object (row.fields.map fun (name, value) => (name, value.toJson))

/-- Reads a row, or says which field is no scalar. -/
def ofJson : Json → Except PayloadFault Row
  | .object fields => do
    let values ← fields.mapM fun (name, json) =>
      match Value.ofJson? json with
      | some value => .ok (name, value)
      | none => .error (.fieldNotScalar name)
    return ⟨values⟩
  | _ => .error .rowNotObject

/-- Reads a payload. -/
def listOfJson : Json → Except PayloadFault (List Row)
  | .array items => items.mapM ofJson
  | _ => .error .notArray

end Row

end ArgoQuery
