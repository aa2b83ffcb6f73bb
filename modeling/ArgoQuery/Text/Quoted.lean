import ArgoQuery.Text.DisplayTable

/-!
# Quoted text in messages

A name from outside is shown between double quotes, and every character in it that would not show
as itself is escaped: the quote and the backslash, the common controls by a letter, anything
without a glyph of its own by its code point in hexadecimal.
-/

namespace ArgoQuery.Text

/-- Whether a character shows as itself between quotes. -/
def showsAsItself (c : Char) : Bool :=
  if c.toNat < 128 then decide (32 ≤ c.toNat) && decide (c.toNat < 127)
  else !inRanges graphemeExtenderRanges c && !inRanges hiddenRanges c

/-- A character as it is written between quotes. -/
def escapeOf (c : Char) : List Char :=
  match c with
  | '"' => ['\\', '"']
  | '\\' => ['\\', '\\']
  | '\t' => ['\\', 't']
  | '\n' => ['\\', 'n']
  | '\r' => ['\\', 'r']
  | '\x00' => ['\\', '0']
  | c =>
    if showsAsItself c then [c]
    else ['\\', 'u', '\x7b'] ++ Nat.toDigits 16 c.toNat ++ ['\x7d']

/-- The text between double quotes, escaped where it would not show. -/
def quoted (text : String) : String :=
  String.ofList ('"' :: text.toList.flatMap escapeOf ++ ['"'])

end ArgoQuery.Text
