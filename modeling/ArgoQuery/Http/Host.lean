import ArgoQuery.Http.PercentEncoding
import ArgoQuery.Json.Tree

/-!
# Hosts

The host of an address is an ASCII name, an IPv4 address or, in brackets, an IPv6 address. Addresses
have many spellings and are written in one. Outside the web a host is any text.
-/

namespace ArgoQuery.Http.Host

/-- What stands between the marks of a text; without a mark, the text alone. -/
def splitMarks (isMark : Char → Bool) : List Char → List (List Char)
  | [] => [[]]
  | c :: rest =>
    match isMark c, splitMarks isMark rest with
    | true, found => [] :: found
    | false, first :: others => (c :: first) :: others
    | false, [] => [[c]]

/-- The value of digits of the given base. -/
def valueIn? (base : Nat) (digits : List Char) : Option Nat :=
  digits.foldlM (fun value digit =>
    ((QuotedPart.hexValue? digit).filter (· < base)).map (base * value + ·)) 0

/-- A number of an IPv4 address: octal after a zero, hexadecimal after `0x`. -/
def numberOf? : List Char → Option Nat
  | [] => none
  | '0' :: 'x' :: digits | '0' :: 'X' :: digits => valueIn? 16 digits
  | '0' :: digit :: rest => valueIn? 8 (digit :: rest)
  | digits => valueIn? 10 digits

/-- The labels of a name without the empty one after a point at its end. -/
def labels (name : List Char) : List (List Char) :=
  let found := splitMarks (· == '.') name
  if found.getLast? = some [] then found.dropLast else found

/-- Whether a name has to be an IPv4 address: its last label is a number. -/
def endsInNumber (name : List Char) : Bool :=
  (labels name).getLast?.any fun label =>
    !label.isEmpty && label.all Char.isDigit || (numberOf? label).isSome

/-- Four bytes in decimal. -/
def writeBytes (address : Nat) : List Char :=
  ['.'].intercalate ([24, 16, 8, 0].map fun shift =>
    decimalDigits (address / Nat.pow 2 shift % 256))

/-- An IPv4 address of one to four numbers, of which the last fills the bytes that are left. -/
def ipv4? (name : List Char) : Option (List Char) := do
  let numbers ← (labels name).mapM numberOf?
  let last ← numbers.getLast?
  let bytes := numbers.dropLast
  let room := Nat.pow 256 (4 - bytes.length)
  if 3 < bytes.length ∨ bytes.any (255 < ·) ∨ room ≤ last then none
  else some (writeBytes (bytes.foldl (fun value byte => 256 * value + byte) 0 * room + last))

/-- A byte in decimal, without zeros in front. -/
def byte? (digits : List Char) : Option Nat := do
  if digits.isEmpty || 3 < digits.length then none
  let value ← valueIn? 10 digits
  if value ≤ 255 ∧ decimalDigits value = digits then some value else none

/-- A group of an IPv6 address. -/
def group? (digits : List Char) : Option Nat :=
  if digits.isEmpty || 4 < digits.length then none else valueIn? 16 digits

/-- The last groups of an IPv6 address, which may be written as four bytes. -/
def lastGroups? (text : List Char) : Option (List Nat) :=
  if text.contains '.' then do
    match ← (splitMarks (· == '.') text).mapM byte? with
    | [a, b, c, d] => some [256 * a + b, 256 * c + d]
    | _ => none
  else (group? text).map ([·])

/-- Groups with colons between them, the last ones maybe as bytes. -/
def groups? (mayHaveBytes : Bool) (text : List Char) : Option (List Nat) :=
  if text.isEmpty then some []
  else do
    let parts := splitMarks (· == ':') text
    let firsts ← parts.dropLast.mapM group?
    let last ← parts.getLast?
    let lasts ← if mayHaveBytes then lastGroups? last else (group? last).map ([·])
    return firsts ++ lasts

/-- What comes before two colons in a row, and what follows them. -/
def splitGap : List Char → List Char × Option (List Char)
  | ':' :: ':' :: rest => ([], some rest)
  | c :: rest =>
    let (before, after) := splitGap rest
    (c :: before, after)
  | [] => ([], none)

/-- Groups in hexadecimal, the first of the longest rows of two zeros or more left out. -/
def writeGroups (groups : List Nat) : List Char :=
  let write (part : List Nat) : List Char := [':'].intercalate (part.map (Nat.toDigits 16))
  let zerosFrom (place : Nat) : Nat := ((groups.drop place).takeWhile (· == 0)).length
  let longest := ((List.range groups.length).map zerosFrom).foldl max 0
  match (List.range groups.length).find? fun place => zerosFrom place == longest with
  | some place =>
    if longest < 2 then write groups
    else write (groups.take place) ++ ':' :: ':' :: write (groups.drop (place + longest))
  | none => write groups

/-- An IPv6 address of eight groups, of which two colons in a row leave out at least one. -/
def ipv6? (text : List Char) : Option (List Char) := do
  let groups ← match splitGap text with
    | (whole, none) => groups? true whole
    | (left, some right) => do
      let left ← groups? false left
      let right ← groups? true right
      if left.length + right.length < 8 then
        some (left ++ List.replicate (8 - left.length - right.length) 0 ++ right)
      else none
  if groups.length = 8 then some (writeGroups groups) else none

/-- Whether a character is forbidden in every host. -/
def isForbidden (c : Char) : Bool := "\x00\t\n\r #/:<>?@[\\]^|".toList.contains c

/-- Whether a character may stand in a host that is a name. -/
def isNameCharacter (c : Char) : Bool :=
  decide (32 < c.toNat) && decide (c.toNat < 127) && c != '%' && !isForbidden c

/-- A text with the ASCII characters that are written as bytes put in their places. -/
def percentDecoded : List Char → List Char
  | '%' :: high :: low :: rest =>
    match QuotedPart.hexNumber? [high, low] with
    | some code => if code < 128 then Char.ofNat code :: percentDecoded rest
      else '%' :: percentDecoded (high :: low :: rest)
    | none => '%' :: percentDecoded (high :: low :: rest)
  | c :: rest => c :: percentDecoded rest
  | [] => []

/-- The host of a web address. -/
def name? (text : List Char) : Option (List Char) :=
  let name := (percentDecoded text).map Char.toLower
  if name.isEmpty || !name.all isNameCharacter then none
  else if endsInNumber name then ipv4? name
  else some name

/-- The host of an address, web address or not. -/
def ofText? (isWeb : Bool) (text : List Char) : Option (List Char) :=
  match text with
  | '[' :: rest =>
    if rest.getLast? = some ']' then (ipv6? rest.dropLast).map ('[' :: · ++ [']']) else none
  | _ =>
    if isWeb then name? text
    else if text.any isForbidden then none
    else some (percentEncode isControlOrWide text)

end ArgoQuery.Http.Host
