import ArgoQuery.Binary64.Text

/-!
# The structure of a JSON text

A text is first read into a tree that keeps every number as its digits, every repeated field and the
position of every field. What a number stands for, which of two equal names counts and how deep a
value may be nested is decided by those who evaluate the tree: `ArgoQuery.Json.Reader` for values in
general, other modules for records of a fixed form.
-/

namespace ArgoQuery

/-- A number as it is written. -/
structure NumberLiteral where
  negative : Bool
  whole : List Char
  /-- The digits after the point; a point is followed by at least one. -/
  fraction : List Char
  exponent : Option Int
deriving DecidableEq, Repr

namespace NumberLiteral

/-- Whether the number is written without a point and without an exponent. -/
def isWhole (literal : NumberLiteral) : Bool :=
  literal.fraction.isEmpty && literal.exponent.isNone

/-- Whole digits: a single zero, or digits that do not start with one. -/
def splitWhole? (text : List Char) : Option (List Char × List Char) :=
  match text with
  | '0' :: rest => some (['0'], rest)
  | _ =>
    let digits := text.takeWhile Char.isDigit
    if digits.isEmpty then none else some (digits, text.dropWhile Char.isDigit)

/-- A point with the digits after it, or nothing. -/
def splitFraction? : List Char → Option (List Char × List Char)
  | '.' :: rest =>
    let digits := rest.takeWhile Char.isDigit
    if digits.isEmpty then none else some (digits, rest.dropWhile Char.isDigit)
  | text => some ([], text)

/-- An exponent with its mark, or nothing. -/
def splitExponent? : List Char → Option (Option Int × List Char)
  | [] => some (none, [])
  | mark :: rest =>
    if mark = 'e' ∨ mark = 'E' then
      let (negative, unsigned) := Binary64.splitSign rest
      let digits := unsigned.takeWhile Char.isDigit
      let size : Int := Binary64.valueOfDigits digits
      if digits.isEmpty then none
      else some (some (if negative then -size else size), unsigned.dropWhile Char.isDigit)
    else some (none, mark :: rest)

/-- The number that the text starts with, and what follows it. -/
def split? (text : List Char) : Option (NumberLiteral × List Char) := do
  let (negative, unsigned) := match text with
    | '-' :: rest => (true, rest)
    | _ => (false, text)
  let (whole, rest) ← splitWhole? unsigned
  let (fraction, rest) ← splitFraction? rest
  let (exponent, rest) ← splitExponent? rest
  return ({ negative, whole, fraction, exponent }, rest)

end NumberLiteral

/-- An element of a quoted text: a character, or a sixteen-bit unit given by its number. -/
inductive QuotedPart where
  | character (c : Char)
  | unit (code : Nat)
deriving DecidableEq, Repr

namespace QuotedPart

/-- The value of a hexadecimal digit in either case. -/
def hexValue? (c : Char) : Option Nat :=
  if c.isDigit then some (c.toNat - '0'.toNat)
  else if 'a' ≤ c ∧ c ≤ 'f' then some (c.toNat - 'a'.toNat + 10)
  else if 'A' ≤ c ∧ c ≤ 'F' then some (c.toNat - 'A'.toNat + 10)
  else none

/-- The value of a run of hexadecimal digits. -/
def hexNumber? (digits : List Char) : Option Nat :=
  digits.foldlM (fun value digit => (hexValue? digit).map (16 * value + ·)) 0

/-- What a letter after a backslash stands for, apart from the one that introduces a number. -/
def escaped? (letter : Char) : Option Char :=
  match letter with
  | '"' => some '"'
  | '\\' => some '\\'
  | '/' => some '/'
  | 'b' => some '\x08'
  | 'f' => some '\x0c'
  | 'n' => some '\n'
  | 'r' => some '\r'
  | 't' => some '\t'
  | _ => none

/-- The elements up to the closing quote, and what follows it. Control characters have to be
escaped. -/
def split? : List Char → Option (List QuotedPart × List Char)
  | [] => none
  | '"' :: rest => some ([], rest)
  | '\\' :: 'u' :: a :: b :: c :: d :: rest => do
    let code ← hexNumber? [a, b, c, d]
    let (parts, after) ← split? rest
    return (unit code :: parts, after)
  | '\\' :: letter :: rest => do
    let c ← escaped? letter
    let (parts, after) ← split? rest
    return (character c :: parts, after)
  | c :: rest =>
    if c.toNat < 32 then none
    else (split? rest).map fun (parts, after) => (character c :: parts, after)

/-- The characters of a quoted text. Two surrogate units make one character; one that stands alone
makes none, and then the text has no value. -/
def characters? : List QuotedPart → Option (List Char)
  | [] => some []
  | character c :: rest => (characters? rest).map (c :: ·)
  | [unit code] => if 0xD800 ≤ code ∧ code < 0xE000 then none else some [Char.ofNat code]
  | unit high :: unit low :: rest =>
    if 0xD800 ≤ high ∧ high < 0xDC00 then
      if 0xDC00 ≤ low ∧ low < 0xE000 then
        (characters? rest).map
          (Char.ofNat (0x10000 + (high - 0xD800) * 0x400 + (low - 0xDC00)) :: ·)
      else none
    else if 0xDC00 ≤ high ∧ high < 0xE000 then none
    else (characters? (unit low :: rest)).map (Char.ofNat high :: ·)
  | unit code :: rest =>
    if 0xD800 ≤ code ∧ code < 0xE000 then none
    else (characters? rest).map (Char.ofNat code :: ·)

end QuotedPart

/-- The quoted text whose opening quote has been read, and what follows it. The text is absent if it
holds a surrogate that stands alone. -/
def splitQuoted? (text : List Char) : Option (Option String × List Char) :=
  (QuotedPart.split? text).map fun (parts, rest) =>
    ((QuotedPart.characters? parts).map String.ofList, rest)

/-- The structure of a JSON text. -/
inductive JsonTree where
  | null
  | bool (flag : Bool)
  | number (literal : NumberLiteral)
  | text (value : Option String)
  | array (items : List JsonTree)
  | object (fields : List (Option String × JsonTree))
deriving Repr, Inhabited

namespace JsonTree

/-- The text after leading white space. -/
def skipSpace (text : List Char) : List Char :=
  text.dropWhile fun c => c == ' ' || c == '\n' || c == '\t' || c == '\r'

mutual

/-- The value that the text starts with, and what follows it. Every step but the last leaves a
shorter text or a part of the same value, so `fuel` beyond twice the text's length is never used. -/
def split? : (fuel : Nat) → List Char → Option (JsonTree × List Char)
  | 0, _ => none
  | fuel + 1, source =>
    match skipSpace source with
    | 'n' :: 'u' :: 'l' :: 'l' :: rest => some (null, rest)
    | 't' :: 'r' :: 'u' :: 'e' :: rest => some (bool true, rest)
    | 'f' :: 'a' :: 'l' :: 's' :: 'e' :: rest => some (bool false, rest)
    | '"' :: rest => (splitQuoted? rest).map fun (value, after) => (JsonTree.text value, after)
    | '[' :: rest =>
      match skipSpace rest with
      | ']' :: after => some (array [], after)
      | _ => (splitItems? fuel rest).map fun (items, after) => (array items, after)
    | '\x7b' :: rest =>
      match skipSpace rest with
      | '\x7d' :: after => some (object [], after)
      | _ => (splitFields? fuel rest).map fun (fields, after) => (object fields, after)
    | start => (NumberLiteral.split? start).map fun (literal, after) => (number literal, after)

/-- The items of an array up to its closing bracket. -/
def splitItems? : (fuel : Nat) → List Char → Option (List JsonTree × List Char)
  | 0, _ => none
  | fuel + 1, source => do
    let (item, rest) ← split? fuel source
    match skipSpace rest with
    | ']' :: after => return ([item], after)
    | ',' :: after =>
      let (items, left) ← splitItems? fuel after
      return (item :: items, left)
    | _ => none

/-- The fields of an object up to its closing bracket. -/
def splitFields? : (fuel : Nat) → List Char → Option (List (Option String × JsonTree) × List Char)
  | 0, _ => none
  | fuel + 1, source =>
    match skipSpace source with
    | '"' :: quoted => do
      let (name, rest) ← splitQuoted? quoted
      match skipSpace rest with
      | ':' :: start =>
        let (value, rest) ← split? fuel start
        match skipSpace rest with
        | '\x7d' :: after => return ([(name, value)], after)
        | ',' :: after =>
          let (fields, left) ← splitFields? fuel after
          return ((name, value) :: fields, left)
        | _ => none
      | _ => none
    | _ => none

end

/-- The tree of a text that holds one value and nothing else. -/
def ofText? (text : String) : Option JsonTree :=
  let characters := text.toList
  match split? (2 * characters.length + 2) characters with
  | some (tree, rest) => if (skipSpace rest).isEmpty then some tree else none
  | none => none

end JsonTree

end ArgoQuery
