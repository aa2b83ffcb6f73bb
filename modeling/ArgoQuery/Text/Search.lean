/-!
# Finding a text in a text

`occurs` decides the infix relation; `splitAtFirst?` gives the parts around the first occurrence.
-/

namespace ArgoQuery.Text

/-- Whether the first text occurs somewhere in the second. -/
def occurs (wanted : List Char) : List Char → Bool
  | [] => wanted.isEmpty
  | c :: rest => wanted.isPrefixOf (c :: rest) || occurs wanted rest

/-- The search finds a text exactly if it is a part of the other. -/
theorem occurs_iff {wanted text : List Char} : occurs wanted text = true ↔ wanted <:+: text := by
  induction text with
  | nil => simp [occurs]
  | cons c rest later =>
    simp [occurs, later, List.infix_cons_iff]

/-- Whether the first text occurs somewhere in the second. -/
def contains (text wanted : String) : Bool := occurs wanted.toList text.toList

/-- What comes before and after the first occurrence of a text. -/
def splitAtFirst? (wanted : List Char) : List Char → Option (List Char × List Char)
  | [] => if wanted.isEmpty then some ([], []) else none
  | c :: rest =>
    if wanted.isPrefixOf (c :: rest) then some ([], (c :: rest).drop wanted.length)
    else (splitAtFirst? wanted rest).map fun (before, after) => (c :: before, after)

end ArgoQuery.Text
