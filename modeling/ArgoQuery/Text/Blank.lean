/-!
# White space

White space is the Unicode property of that name, which is wider than ASCII's and leaves out the
zero-width space.
-/

namespace ArgoQuery.Text

/-- Whether a character is white space. -/
def isBlank (c : Char) : Bool :=
  let code := c.toNat
  (9 ≤ code && code ≤ 13) || code == 0x20 || code == 0x85 || code == 0xA0 || code == 0x1680 ||
    (0x2000 ≤ code && code ≤ 0x200A) || code == 0x2028 || code == 0x2029 || code == 0x202F ||
    code == 0x205F || code == 0x3000

/-- A list without the elements at its end that satisfy the test. -/
def dropEndWhile {α : Type} (test : α → Bool) (items : List α) : List α :=
  (items.reverse.dropWhile test).reverse

/-- The characters between leading and trailing white space. -/
def trimmed (text : List Char) : List Char := dropEndWhile isBlank (text.dropWhile isBlank)

/-- The text without leading and trailing white space. -/
def trim (text : String) : String := String.ofList (trimmed text.toList)

/-- Whether a text holds nothing but white space. -/
def isBlankText (text : String) : Bool := text.toList.all isBlank

/-- The text without the slashes at its end. -/
def withoutTrailingSlashes (text : String) : String :=
  String.ofList (dropEndWhile (· == '/') text.toList)

end ArgoQuery.Text
