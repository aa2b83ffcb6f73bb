import ArgoQuery.Json.Tree

/-!
# Texts in TOML

A text is written between double quotes, with escapes, or between single quotes, without. Between
tripled quotes it may run over several lines: a line break right after the opening quotes does not
count, every other one is kept as it is, and a backslash at the end of a line joins it to the next
character that is not white space.
-/

namespace ArgoQuery.Toml

/-- Controls other than the tab; a line feed is one of them. -/
def isControl (c : Char) : Bool := (decide (c.toNat < 32) && c != '\t') || c.toNat == 127

/-- The character whose number is written in hexadecimal, unless that is no character. -/
def numbered? (digits : List Char) : Option Char := do
  let code ← QuotedPart.hexNumber? digits
  if code < 0xD800 ∨ (0xDFFF < code ∧ code < 0x110000) then some (Char.ofNat code) else none

/-- What a letter after a backslash stands for, apart from those that introduce a number. -/
def escaped? (letter : Char) : Option Char :=
  match letter with
  | '"' => some '"'
  | '\\' => some '\\'
  | 'b' => some '\x08'
  | 'e' => some '\x1b'
  | 'f' => some '\x0c'
  | 'n' => some '\n'
  | 'r' => some '\r'
  | 't' => some '\t'
  | _ => none

/-- An escape after its backslash, and what follows it. -/
def splitEscape? : List Char → Option (Char × List Char)
  | 'x' :: a :: b :: rest => (numbered? [a, b]).map (·, rest)
  | 'u' :: a :: b :: c :: d :: rest => (numbered? [a, b, c, d]).map (·, rest)
  | 'U' :: a :: b :: c :: d :: e :: f :: g :: h :: rest =>
    (numbered? [a, b, c, d, e, f, g, h]).map (·, rest)
  | letter :: rest => (escaped? letter).map (·, rest)
  | [] => none

/-- A text with escapes up to its closing quote, and what follows that. Every step shortens the
text, so `fuel` beyond its length is never used. -/
def splitBasic? : (fuel : Nat) → List Char → Option (List Char × List Char)
  | _ + 1, '"' :: rest => some ([], rest)
  | fuel + 1, '\\' :: rest => do
    let (c, rest) ← splitEscape? rest
    let (content, after) ← splitBasic? fuel rest
    return (c :: content, after)
  | fuel + 1, c :: rest =>
    if isControl c then none
    else (splitBasic? fuel rest).map fun (content, after) => (c :: content, after)
  | _, _ => none

/-- A text without escapes up to its closing quote, and what follows that. -/
def splitLiteral? : List Char → Option (List Char × List Char)
  | [] => none
  | '\x27' :: rest => some ([], rest)
  | c :: rest =>
    if isControl c then none
    else (splitLiteral? rest).map fun (content, after) => (c :: content, after)

/-- The quotes that belong to a text although they touch its closing quotes: of up to five in a row
the last three close. -/
def splitTouching (quote : Char) : List Char → List Char × List Char
  | first :: second :: rest =>
    if first = quote ∧ second = quote then ([quote, quote], rest)
    else if first = quote then ([quote], second :: rest)
    else ([], first :: second :: rest)
  | [last] => if last = quote then ([quote], []) else ([], [last])
  | [] => ([], [])

/-- What follows white space that holds at least one line break, after a backslash. -/
def joinLines? (broken : Bool) : List Char → Option (List Char)
  | [] => if broken then some [] else none
  | '\r' :: '\n' :: rest => joinLines? true rest
  | c :: rest =>
    if c = '\n' then joinLines? true rest
    else if c = ' ' ∨ c = '\t' then joinLines? broken rest
    else if broken then some (c :: rest)
    else none

/-- A text of several lines with escapes, up to its closing quotes. -/
def splitBasicLines? : (fuel : Nat) → List Char → Option (List Char × List Char)
  | _ + 1, '"' :: '"' :: '"' :: rest => some (splitTouching '"' rest)
  | fuel + 1, '\\' :: rest =>
    match joinLines? false rest with
    | some joined => splitBasicLines? fuel joined
    | none => do
      let (c, rest) ← splitEscape? rest
      let (content, after) ← splitBasicLines? fuel rest
      return (c :: content, after)
  | fuel + 1, '\r' :: '\n' :: rest =>
    (splitBasicLines? fuel rest).map fun (content, after) => ('\r' :: '\n' :: content, after)
  | fuel + 1, c :: rest =>
    if isControl c && c != '\n' then none
    else (splitBasicLines? fuel rest).map fun (content, after) => (c :: content, after)
  | _, _ => none

/-- A text of several lines without escapes, up to its closing quotes. -/
def splitLiteralLines? : List Char → Option (List Char × List Char)
  | [] => none
  | '\x27' :: '\x27' :: '\x27' :: rest => some (splitTouching '\x27' rest)
  | '\r' :: '\n' :: rest =>
    (splitLiteralLines? rest).map fun (content, after) => ('\r' :: '\n' :: content, after)
  | c :: rest =>
    if isControl c && c != '\n' then none
    else (splitLiteralLines? rest).map fun (content, after) => (c :: content, after)

/-- The text after a line break that it starts with. -/
def dropLineBreak : List Char → List Char
  | '\r' :: '\n' :: rest => rest
  | '\n' :: rest => rest
  | text => text

/-- A quoted text of one line, as it may stand in a key. -/
def splitLine? : List Char → Option (List Char × List Char)
  | '"' :: rest => splitBasic? rest.length rest
  | '\x27' :: rest => splitLiteral? rest
  | _ => none

/-- A quoted text. -/
def splitText? : List Char → Option (List Char × List Char)
  | '"' :: '"' :: '"' :: rest => splitBasicLines? rest.length (dropLineBreak rest)
  | '\x27' :: '\x27' :: '\x27' :: rest => splitLiteralLines? (dropLineBreak rest)
  | text => splitLine? text

end ArgoQuery.Toml
