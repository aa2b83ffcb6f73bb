/-!
# Percent encoding

Characters that would be mistaken for the structure of an address are written as the hexadecimal
values of their UTF-8 bytes. A query string is encoded more strictly than the other parts, and a
space in it is written as a plus sign.
-/

namespace ArgoQuery.Http

/-- A hexadecimal digit, with letters in upper case. -/
def upperHexDigit (digit : Nat) : Char := (Nat.digitChar digit).toUpper

/-- A character by its bytes. -/
def percentEncoded (c : Char) : List Char :=
  (String.singleton c).toUTF8.toList.flatMap fun byte =>
    ['%', upperHexDigit (byte.toNat / 16), upperHexDigit (byte.toNat % 16)]

/-- Encodes the characters that satisfy the test. -/
def percentEncode (hasToBe : Char → Bool) (text : List Char) : List Char :=
  text.flatMap fun c => if hasToBe c then percentEncoded c else [c]

/-- Whether a character is a control character or no ASCII character. -/
def isControlOrWide (c : Char) : Bool := decide (c.toNat < 32) || decide (126 < c.toNat)

/-- Whether a character has to be encoded in a path. -/
def isEncodedInPath (c : Char) : Bool :=
  isControlOrWide c || " \"#<>?\x60\x7b\x7d".toList.contains c

/-- Whether a character has to be encoded in a query that is given as a whole. -/
def isEncodedInQuery (c : Char) : Bool := isControlOrWide c || " \"#<>'".toList.contains c

/-- Whether a character is encoded in a fragment. -/
def isEncodedInFragment (c : Char) : Bool := isControlOrWide c || " \"<>\x60".toList.contains c

/-- A character of a name or a value in a query string. -/
def formEncoded (c : Char) : List Char :=
  if c.isAlphanum || "*-._".toList.contains c then [c]
  else if c = ' ' then ['+']
  else percentEncoded c

/-- A text as it stands in a form. -/
def formEncode (text : String) : List Char := text.toList.flatMap formEncoded

/-- The query string of names and values. -/
def formEncodePairs (pairs : List (String × String)) : List Char :=
  ['&'].intercalate (pairs.map fun (name, value) => formEncode name ++ '=' :: formEncode value)

end ArgoQuery.Http
