import ArgoQuery.Text.Blank
import ArgoQuery.Text.Search

/-!
# Fenced text

Generated text often wraps what matters in a block between triple backticks, with the name of a
language on the opening line. The content of the first block is what counts, or the whole text if
there is no block.
-/

namespace ArgoQuery.Advisory

open Text (splitAtFirst? trimmed)

/-- The three backticks that open and close a block of code. -/
def fence : List Char := ['\x60', '\x60', '\x60']

/-- A block without its opening line if there is nothing on it but the name of a language. -/
def dropLanguage (block : List Char) : List Char :=
  match splitAtFirst? ['\n'] block with
  | some (line, rest) => if (trimmed line).all Char.isAlphanum then rest else block
  | none => block

/-- What comes before the next fence, or everything if there is none. -/
def untilFence (block : List Char) : List Char :=
  match splitAtFirst? fence block with
  | some (before, _) => before
  | none => block

/-- The content of the first fenced block, or the whole text, between its white space. -/
def stripFences (text : List Char) : List Char :=
  match splitAtFirst? fence text with
  | some (_, block) => trimmed (untilFence (dropLanguage block))
  | none => trimmed text

/-- The content of a generated text, if it has at least the given number of characters and any at
all. -/
def accept? (minChars : Nat) (text : String) : Option String :=
  let content := stripFences text.toList
  if content.isEmpty || content.length < minChars then none else some (String.ofList content)

end ArgoQuery.Advisory
