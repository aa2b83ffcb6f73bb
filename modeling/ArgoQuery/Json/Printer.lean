import ArgoQuery.Binary64.Text
import ArgoQuery.Json

/-!
# Writing JSON

The compact form has no white space at all. The indented form has one item or field per line, two
spaces to a level, and leaves empty arrays and objects as pairs of brackets. Every writer puts its
text in front of the text that follows it, which is its last argument.
-/

namespace ArgoQuery.Json

/-- A character as it stands between double quotes: only the quote, the backslash and the controls
below the space are escaped. -/
def escape (c : Char) : List Char :=
  match c with
  | '"' => ['\\', '"']
  | '\\' => ['\\', '\\']
  | '\x08' => ['\\', 'b']
  | '\x0c' => ['\\', 'f']
  | '\n' => ['\\', 'n']
  | '\r' => ['\\', 'r']
  | '\t' => ['\\', 't']
  | c =>
    if c.toNat < 32 then
      ['\\', 'u', '0', '0', Nat.digitChar (c.toNat / 16), Nat.digitChar (c.toNat % 16)]
    else [c]

/-- Writes a text in quotes in front of what follows. -/
def writeText (value : String) (rest : List Char) : List Char :=
  '"' :: (value.toList.flatMap escape ++ '"' :: rest)

/-- A number in the interchange form. JSON has no form for infinity and NaN. -/
def writeFloat (value : Binary64) (rest : List Char) : List Char :=
  if value.isFinite then value.interchange.toList ++ rest else "null".toList ++ rest

mutual

/-- Writes a value without white space in front of what follows. -/
def write : Json → List Char → List Char
  | null, rest => "null".toList ++ rest
  | bool flag, rest => (if flag then "true" else "false").toList ++ rest
  | int value, rest => signedDigits value ++ rest
  | float value, rest => writeFloat value rest
  | text value, rest => writeText value rest
  | array items, rest => '[' :: writeItems items (']' :: rest)
  | object fields, rest => '\x7b' :: writeFields fields ('\x7d' :: rest)

/-- The items of an array, a comma between each two. -/
def writeItems : List Json → List Char → List Char
  | [], rest => rest
  | [item], rest => item.write rest
  | item :: items, rest => item.write (',' :: writeItems items rest)

/-- The fields of an object, a comma between each two. -/
def writeFields : List (String × Json) → List Char → List Char
  | [], rest => rest
  | [field], rest => writeField field rest
  | field :: fields, rest => writeField field (',' :: writeFields fields rest)

/-- Writes a field in front of what follows. -/
def writeField : String × Json → List Char → List Char
  | (name, value), rest => writeText name (':' :: value.write rest)

end

/-- The value in the compact form. -/
def compact (value : Json) : String := String.ofList (value.write [])

/-- A new line, indented. -/
def writeLine (level : Nat) (rest : List Char) : List Char :=
  '\n' :: (List.replicate (2 * level) ' ' ++ rest)

mutual

/-- Writes a value over several lines, indented by its level, in front of what follows. -/
def writeAt (level : Nat) : Json → List Char → List Char
  | array [], rest => '[' :: ']' :: rest
  | array items, rest => '[' :: writeItemsAt (level + 1) items (writeLine level (']' :: rest))
  | object [], rest => '\x7b' :: '\x7d' :: rest
  | object fields, rest =>
    '\x7b' :: writeFieldsAt (level + 1) fields (writeLine level ('\x7d' :: rest))
  | value, rest => value.write rest

/-- The items of an array, each on its own line. -/
def writeItemsAt (level : Nat) : List Json → List Char → List Char
  | [], rest => rest
  | [item], rest => writeLine level (item.writeAt level rest)
  | item :: items, rest =>
    writeLine level (item.writeAt level (',' :: writeItemsAt level items rest))

/-- The fields of an object, each on its own line. -/
def writeFieldsAt (level : Nat) : List (String × Json) → List Char → List Char
  | [], rest => rest
  | [field], rest => writeLine level (writeFieldAt level field rest)
  | field :: fields, rest =>
    writeLine level (writeFieldAt level field (',' :: writeFieldsAt level fields rest))

/-- Writes a field whose value may take several lines. -/
def writeFieldAt (level : Nat) : String × Json → List Char → List Char
  | (name, value), rest => writeText name (':' :: ' ' :: value.writeAt level rest)

end

/-- The value in the indented form. -/
def indented (value : Json) : String := String.ofList (value.writeAt 0 [])

end ArgoQuery.Json
