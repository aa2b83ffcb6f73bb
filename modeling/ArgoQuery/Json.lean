import ArgoQuery.Binary64

/-!
# JSON values

Integers and fractional numbers are kept apart, and an object keeps the order and the repetitions of
its fields. Writing is in `ArgoQuery.Json.Printer`, reading in `ArgoQuery.Json.Reader`.
-/

namespace ArgoQuery

/-- A JSON value. -/
inductive Json where
  | null
  | bool (flag : Bool)
  | int (value : Int)
  | float (value : Binary64)
  | text (value : String)
  | array (items : List Json)
  | object (fields : List (String × Json))
deriving Repr, Inhabited

namespace Json

/-- The value, or null for nothing. -/
def ofOption {α : Type} (encode : α → Json) : Option α → Json
  | some value => encode value
  | none => null

/-- The array of the encoded elements. -/
def ofList {α : Type} (encode : α → Json) (items : List α) : Json := array (items.map encode)

/-- A whole number as a value. -/
def ofNat (value : Nat) : Json := int value

/-- The value of an object's field; other values have no fields. -/
def field? (name : String) : Json → Option Json
  | object fields => fields.lookup name
  | _ => none

/-- The text that a value is, if it is one. -/
def text? : Json → Option String
  | text value => some value
  | _ => none

/-- Whether a value is a text. -/
def isText (value : Json) : Bool := value.text?.isSome

end Json

end ArgoQuery
