import ArgoQuery.Text.CaseTable

/-!
# Lowercasing

Every character is replaced by its lowercase form, which is one character except for the dotted
capital I. The capital sigma becomes a final sigma where a word ends: after a cased character and
not before one, case-ignorable characters in between not counting.
-/

namespace ArgoQuery.Text

/-- Whether a character has letter case. -/
def isCased (c : Char) : Bool :=
  if c.toNat < 128 then c.isAlpha else inRanges casedRanges c

/-- Whether a character is passed over when a cased neighbour is looked for. -/
def isCaseIgnorable (c : Char) : Bool :=
  if c.isAlphanum then false else inRanges caseIgnorableRanges c

/-- The lowercase form of a character wherever it stands. -/
def lowercaseOf (c : Char) : List Char :=
  if c.toNat < 128 then [c.toLower]
  else if c = '\u0130' then ['i', '\u0307']
  else
    let run? := lowercaseRuns.find? fun (first, last, step, _) =>
      decide (first ≤ c.toNat) && decide (c.toNat ≤ last) && (c.toNat - first) % step == 0
    match run? with
    | some (_, _, _, shift) => [Char.ofNat ((c.toNat : Int) + shift).toNat]
    | none => [c]

/-- Whether the first character that is not case-ignorable is cased. -/
def meetsCased (text : List Char) : Bool :=
  match text.dropWhile isCaseIgnorable with
  | c :: _ => isCased c
  | [] => false

/-- Lowercases the text, given the characters before it, nearest first. -/
def lowercaseAfter : (before : List Char) → List Char → List Char
  | _, [] => []
  | before, c :: rest =>
    let lowered :=
      if c = 'Σ' then [if meetsCased before && !meetsCased rest then 'ς' else 'σ']
      else lowercaseOf c
    lowered ++ lowercaseAfter (c :: before) rest

/-- The text in lower case. -/
def lowercase (text : String) : String := String.ofList (lowercaseAfter [] text.toList)

end ArgoQuery.Text
