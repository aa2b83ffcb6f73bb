import ArgoQuery.Binary64.Text
import ArgoQuery.Text.Blank

/-!
# Values of fields

A field holds a scalar. Stores are careless about types, so a value has two views that reach across
them: its number, which a text may spell, and its key, the text by which rows are matched.
-/

namespace ArgoQuery

/-- What a field of a row can hold. -/
inductive Value where
  | null
  | bool (flag : Bool)
  | int (value : Int64)
  | float (value : Binary64)
  | text (value : String)
deriving DecidableEq, Repr

namespace Value

/-- Whether a value is null. -/
def isNull : Value → Bool
  | null => true
  | _ => false

/-- The numeric view. A text counts as the number that it spells between white space. -/
def number? : Value → Option Binary64
  | int value => some (.ofInt value.toInt)
  | float value => some value
  | text value => Binary64.read? (Text.trim value)
  | null | bool _ => none

/-- The key view, in which `12`, `12.0` and `"12"` agree. A whole number is written without a
fraction, after clamping to 64 bits; a text that is blank is no key. -/
def key? : Value → Option String
  | int value => some (decimalText value.toInt)
  | float value => some (if value.isWhole then decimalText value.toInt64 else value.plain)
  | text value =>
    let trimmed := Text.trim value
    if trimmed.isEmpty then none else some trimmed
  | null | bool _ => none

/-- The value as it is shown to a reader. -/
def display : Value → String
  | null => "null"
  | bool flag => if flag then "true" else "false"
  | int value => decimalText value.toInt
  | float value => value.plain
  | text value => value

end Value

end ArgoQuery
