import ArgoQuery.Text.LetterCase

/-!
# Letter case of ASCII letters

The 26 capital letters of ASCII are all that `Char.toLower` changes, so what agrees on a capital and
its small letter does not depend on it: `comp_toLower`. The lowercase form of a text is of this
kind, final sigmas included, for the case of a neighbouring letter does not count. Main statement:
`lowercase_eq_of_agreeButCase`.
-/

namespace ArgoQuery.Text

/-- Whether two texts differ at most in the case of ASCII letters. -/
def AgreeButCase (first second : String) : Prop :=
  first.toList.map Char.toLower = second.toList.map Char.toLower

instance (first second : String) : Decidable (AgreeButCase first second) :=
  inferInstanceAs (Decidable (_ = _))

/-- The capital letters of ASCII. -/
def capitals : List Char := (List.range 26).map fun place => Char.ofNat (place + 'A'.toNat)

/-- The listed capitals are all the letters from A to Z. -/
theorem mem_capitals {c : Char} (least : 'A'.val ≤ c.val) (greatest : c.val ≤ 'Z'.val) :
    c ∈ capitals := by
  have least : 'A'.toNat ≤ c.toNat := UInt32.le_iff_toNat_le.mp least
  have greatest : c.toNat ≤ 'Z'.toNat := UInt32.le_iff_toNat_le.mp greatest
  have last : 'Z'.toNat < 'A'.toNat + 26 := by decide
  refine List.mem_map.mpr ⟨c.toNat - 'A'.toNat, List.mem_range.mpr (by omega), ?_⟩
  rw [Nat.sub_add_cancel least, Char.ofNat_toNat]

/-- A character that is no capital letter of ASCII has no other lower case. -/
theorem toLower_eq_self {c : Char} (other : c ∉ capitals) : c.toLower = c :=
  dif_neg fun bounds => other (mem_capitals bounds.1 bounds.2)

/-- What agrees on every capital letter and its small letter does not depend on letter case. -/
theorem comp_toLower {α : Type} [DecidableEq α] (look : Char → α)
    (capital : capitals.all (fun c => decide (look c.toLower = look c)) = true) :
    look ∘ Char.toLower = look := by
  funext c
  by_cases member : c ∈ capitals
  · exact of_decide_eq_true (List.all_eq_true.mp capital c member)
  · exact congrArg look (toLower_eq_self member)

/-- A character that is no letter of ASCII is reached from no other one. -/
theorem toLower_eq_iff (sign : Char)
    (letterless : capitals.all (fun c => decide (c ≠ sign ∧ c.toLower ≠ sign)) = true) (c : Char) :
    c.toLower = sign ↔ c = sign := by
  by_cases member : c ∈ capitals
  · obtain ⟨apart, apart'⟩ := of_decide_eq_true (List.all_eq_true.mp letterless c member)
    exact iff_of_false apart' apart
  · rw [toLower_eq_self member]

/-- Whether the first character that is not ignorable is cased does not depend on the case of the
letters. -/
@[simp]
theorem meetsCased_map_toLower (text : List Char) :
    meetsCased (text.map Char.toLower) = meetsCased text := by
  have ignorable : isCaseIgnorable ∘ Char.toLower = isCaseIgnorable :=
    comp_toLower isCaseIgnorable (by decide +kernel)
  have cased : isCased ∘ Char.toLower = isCased := comp_toLower isCased (by decide +kernel)
  rw [meetsCased, List.dropWhile_map, ignorable, meetsCased]
  cases text.dropWhile isCaseIgnorable with
  | nil => rfl
  | cons c rest => exact congrFun cased c

/-- The lowercase form of a text does not depend on the case of its ASCII letters, nor on that of
those before it. The text before grows with every letter of the induction, so the statement is about
any text before. -/
theorem lowercaseAfter_map_toLower (before text : List Char) :
    lowercaseAfter (before.map Char.toLower) (text.map Char.toLower) =
      lowercaseAfter before text := by
  have sigma := toLower_eq_iff 'Σ' (by decide +kernel)
  have single : lowercaseOf ∘ Char.toLower = lowercaseOf :=
    comp_toLower lowercaseOf (by decide +kernel)
  induction text generalizing before with
  | nil => rfl
  | cons c rest ih =>
    have single : lowercaseOf c.toLower = lowercaseOf c := congrFun single c
    have later := ih (c :: before)
    rw [List.map_cons] at later
    simp only [List.map_cons, lowercaseAfter, meetsCased_map_toLower, sigma, single, later]

/-- Texts that agree but for letter case have one lowercase form. -/
theorem lowercase_eq_of_agreeButCase {first second : String} (agree : AgreeButCase first second) :
    lowercase first = lowercase second := by
  have lowered (text : String) :
      lowercase text = String.ofList (lowercaseAfter [] (text.toList.map Char.toLower)) :=
    congrArg String.ofList (lowercaseAfter_map_toLower [] text.toList).symm
  rw [lowered, lowered, agree]

end ArgoQuery.Text
