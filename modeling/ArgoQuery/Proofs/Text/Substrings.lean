import ArgoQuery.Text.Blank
import ArgoQuery.Text.Search
import Mathlib.Data.List.DropRight

/-!
# Parts of a text

`splitAtFirst?` divides a text where another first occurs. First means that what comes before, even
with all but the last character of the other text added, does not hold it: an occurrence that
begins earlier would lie in there (`splitAtFirst?_eq_some_iff`).

Trimming leaves a part of a text that has no white space around it (`trimmed_isInfix`,
`isTrimmed_trimmed`), and leaves such a text alone (`trimmed_of_isTrimmed`).
-/

namespace ArgoQuery.Text

section Search

variable {wanted text before after : List Char}

/-- A text is not divided exactly if it has no occurrence of the other. -/
theorem splitAtFirst?_eq_none_iff (nonempty : wanted ≠ []) :
    splitAtFirst? wanted text = none ↔ ¬ wanted <:+: text := by
  induction text with
  | nil => simp [splitAtFirst?, nonempty]
  | cons c rest ih =>
    rw [splitAtFirst?, List.infix_cons_iff, ← List.isPrefixOf_iff_prefix]
    split_ifs with here
    · simp [here]
    · simp [here, ih]

/-- A text that goes on with all characters of another goes on with all but the last. -/
theorem append_dropLast_isPrefix :
    before ++ wanted.dropLast <+: before ++ wanted ++ after := by
  rw [List.append_assoc, List.prefix_append_right_inj]
  exact (List.dropLast_prefix wanted).trans (List.prefix_append ..)

/-- An occurrence at the start of a text ends before a later one does. -/
theorem prefix_before_later (here : wanted <+: before ++ wanted ++ after) (later : before ≠ []) :
    wanted <+: before ++ wanted.dropLast := by
  refine List.prefix_of_prefix_length_le here append_dropLast_isPrefix ?_
  have longer := List.length_pos_iff.mpr later
  rw [List.length_append, List.length_dropLast]
  omega

/-- A text is divided at the first occurrence of another. -/
theorem splitAtFirst?_eq_some_iff (nonempty : wanted ≠ []) :
    splitAtFirst? wanted text = some (before, after) ↔
      text = before ++ wanted ++ after ∧ ¬ wanted <:+: before ++ wanted.dropLast := by
  induction text generalizing before with
  | nil => simp [splitAtFirst?, nonempty]
  | cons c rest ih =>
    rw [splitAtFirst?]
    split_ifs with here
    · obtain ⟨tail, same⟩ := List.isPrefixOf_iff_prefix.mp here
      rw [← same, List.drop_left, Option.some.injEq, Prod.mk.injEq]
      constructor
      · rintro ⟨rfl, rfl⟩
        refine ⟨rfl, fun early => ?_⟩
        have long := early.length_le
        have positive := List.length_pos_iff.mpr nonempty
        rw [List.nil_append, List.length_dropLast] at long
        omega
      · rintro ⟨same', first⟩
        have start : before = [] := by
          by_contra later
          have here : wanted <+: before ++ wanted ++ after := same' ▸ List.prefix_append ..
          exact first (prefix_before_later here later).isInfix
        subst start
        exact ⟨rfl, List.append_cancel_left same'⟩
    · rw [List.isPrefixOf_iff_prefix] at here
      rw [Option.map_eq_some_iff]
      constructor
      · rintro ⟨⟨start, tail⟩, split, same⟩
        cases same
        obtain ⟨rfl, first⟩ := ih.mp split
        refine ⟨rfl, fun early => ?_⟩
        rw [List.cons_append, List.infix_cons_iff] at early
        rcases early with early | early
        · exact here (early.trans (List.cons_prefix_cons.mpr ⟨rfl, append_dropLast_isPrefix⟩))
        · exact first early
      · rintro ⟨same, first⟩
        cases before with
        | nil => exact absurd ⟨after, same.symm⟩ here
        | cons d start =>
          obtain ⟨rfl, rfl⟩ := List.cons.inj same
          exact ⟨(start, after), ih.mpr ⟨rfl, fun early => first (List.infix_cons early)⟩, rfl⟩

/-- What does not have a certain character occurs on one side of that character, because it cannot
begin with it. -/
theorem infix_append_cons_iff {c : Char} (absent : c ∉ wanted) :
    wanted <:+: before ++ c :: after ↔ wanted <:+: before ∨ wanted <:+: after := by
  have empty {part : List Char} (here : part <+: c :: after) (subset : part ⊆ wanted) :
      part = [] := by
    rcases List.prefix_cons_iff.mp here with rfl | ⟨rest, rfl, -⟩
    · rfl
    · exact absurd (subset List.mem_cons_self) absent
  constructor
  · intro occurs
    rcases List.infix_append_iff.mp occurs with left | right | ⟨left, right, rfl, left', right'⟩
    · exact .inl left
    · rcases List.infix_cons_iff.mp right with here | right
      · exact .inl (empty here (List.Subset.refl _) ▸ List.nil_infix)
      · exact .inr right
    · rw [empty right' (List.subset_append_right ..), List.append_nil]
      exact .inl left'.isInfix
  · rintro (left | right)
    · exact left.trans (List.prefix_append ..).isInfix
    · exact (List.infix_cons right).trans (List.suffix_append ..).isInfix

end Search

/-- Whether a text neither begins nor ends with white space. -/
def IsTrimmed (text : List Char) : Prop :=
  (∀ c ∈ text.head?, isBlank c = false) ∧ ∀ c ∈ text.getLast?, isBlank c = false

/-- Trimming takes the white space off the start and then off the end. -/
theorem trimmed_eq_rdropWhile (text : List Char) :
    trimmed text = (text.dropWhile isBlank).rdropWhile isBlank := rfl

/-- Trimming leaves a part of the text. -/
theorem trimmed_isInfix (text : List Char) : trimmed text <:+: text :=
  (List.rdropWhile_prefix _ _).isInfix.trans (List.dropWhile_suffix _).isInfix

/-- Trimming leaves no white space at either end. What is left begins as the text does after the
white space at its start, and ends where the white space at its end begins. -/
theorem isTrimmed_trimmed (text : List Char) : IsTrimmed (trimmed text) := by
  rw [trimmed_eq_rdropWhile]
  constructor
  · intro c first
    obtain ⟨rest, same⟩ := List.rdropWhile_prefix isBlank (text.dropWhile isBlank)
    have stop := List.head?_dropWhile_not isBlank text
    rw [← same, List.head?_append, first] at stop
    exact stop
  · intro c last
    obtain ⟨nonempty, rfl⟩ := List.mem_getLast?_eq_getLast last
    exact Bool.not_eq_true _ ▸ List.rdropWhile_last_not _ _ nonempty

/-- A text without white space at its ends is left alone. -/
theorem trimmed_of_isTrimmed {text : List Char} (trim : IsTrimmed text) : trimmed text = text := by
  have start : text.dropWhile isBlank = text := by
    cases text with
    | nil => rfl
    | cons c rest => exact List.dropWhile_cons_of_neg (by simp [trim.1 c rfl])
  rw [trimmed_eq_rdropWhile, start, List.rdropWhile_eq_self_iff]
  intro nonempty
  simp [trim.2 _ (List.getLast?_eq_some_getLast nonempty)]

/-- White space at the end of a text is trimmed. -/
theorem trimmed_append_blank (text : List Char) {c : Char} (blank : isBlank c = true) :
    trimmed (text ++ [c]) = trimmed text := by
  rw [trimmed_eq_rdropWhile, trimmed_eq_rdropWhile, List.dropWhile_append]
  split_ifs with allBlank
  · rw [List.isEmpty_iff.mp allBlank, List.dropWhile_cons_of_pos blank, List.dropWhile_nil]
  · exact List.rdropWhile_concat_pos _ _ _ blank

end ArgoQuery.Text
