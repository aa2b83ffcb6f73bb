/-!
# Sets of characters as ranges

The properties of the Unicode character database that the library needs are tables of ranges of
code points, one module for each. ASCII is the business of the definitions that use a table. What
patterns match follows version 16 of the database, letter case and display follow version 17.
-/

namespace ArgoQuery.Text

/-- Code points from a first to a last one, both included. -/
abbrev CharacterRange := Nat × Nat

/-- Whether a character lies in one of the ranges. -/
def inRanges (ranges : List CharacterRange) (c : Char) : Bool :=
  ranges.any fun range => decide (range.1 ≤ c.toNat) && decide (c.toNat ≤ range.2)

end ArgoQuery.Text
