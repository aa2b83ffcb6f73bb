import ArgoQuery.Text.LetterCase
import Mathlib.Data.List.Infix
import Mathlib.Tactic.SplitIfs

/-!
# Parts of a text in lower case

Lowercasing goes from left to right and no character vanishes. So a text that lowercasing leaves
alone has only characters that are their own lowercase form, for if one grew into two the whole
would be longer (`isLower_of_lowercase_eq`). Such characters are left alone wherever they stand, and
what they spell in a text they also spell in its lowercase form: `infix_lowercase`. That is not so
for all texts, since the form of a capital sigma depends on what stands around it.
-/

namespace ArgoQuery.Text

/-- Whether a character is its own lowercase form, whatever stands around it. -/
def IsLower (c : Char) : Prop := c ≠ 'Σ' ∧ lowercaseOf c = [c]

/-- No character disappears in lower case. -/
theorem lowercaseOf_ne_nil (c : Char) : lowercaseOf c ≠ [] := by
  rw [lowercaseOf]
  split_ifs
  · simp
  · simp
  · dsimp only
    split <;> simp

/-- One character is lowercased at a time. It does not vanish, and it is left alone exactly if it is
its own lowercase form. -/
theorem exists_lowercaseAfter_cons (before : List Char) (c : Char) (rest : List Char) :
    ∃ lowered, lowercaseAfter before (c :: rest) = lowered ++ lowercaseAfter (c :: before) rest ∧
      lowered ≠ [] ∧ (lowered = [c] ↔ IsLower c) := by
  refine ⟨_, rfl, ?_⟩
  split_ifs with sigma final
  · subst sigma
    exact ⟨by decide, iff_of_false (by decide) fun lower => lower.1 rfl⟩
  · subst sigma
    exact ⟨by decide, iff_of_false (by decide) fun lower => lower.1 rfl⟩
  · exact ⟨lowercaseOf_ne_nil c, by simp [IsLower, sigma]⟩

/-- A text is no shorter in lower case. -/
theorem length_le_lowercaseAfter (before text : List Char) :
    text.length ≤ (lowercaseAfter before text).length := by
  induction text generalizing before with
  | nil => exact Nat.zero_le _
  | cons c rest ih =>
    obtain ⟨lowered, step, nonempty, -⟩ := exists_lowercaseAfter_cons before c rest
    have positive := List.length_pos_iff.mpr nonempty
    have later := ih (c :: before)
    rw [step, List.length_cons, List.length_append]
    omega

/-- A text that lowercasing leaves alone has lowercase characters only. By induction: the rest of it
is no shorter in lower case, so there is room for one character only before it. -/
theorem isLower_of_lowercaseAfter_eq {before text : List Char}
    (same : lowercaseAfter before text = text) : ∀ c ∈ text, IsLower c := by
  induction text generalizing before with
  | nil => exact fun _ member => absurd member List.not_mem_nil
  | cons c rest ih =>
    obtain ⟨lowered, step, nonempty, alone⟩ := exists_lowercaseAfter_cons before c rest
    rw [step] at same
    have single : lowered.length = 1 := by
      have positive := List.length_pos_iff.mpr nonempty
      have later := length_le_lowercaseAfter (c :: before) rest
      have total := congrArg List.length same
      rw [List.length_append, List.length_cons] at total
      omega
    obtain ⟨first, later⟩ := List.append_inj (same.trans (List.singleton_append ..).symm) single
    exact List.forall_mem_cons.mpr ⟨alone.mp first, ih later⟩

/-- A name that lowercasing leaves alone has lowercase characters only. -/
theorem isLower_of_lowercase_eq {name : String} (same : lowercase name = name) :
    ∀ c ∈ name.toList, IsLower c :=
  isLower_of_lowercaseAfter_eq ((String.toList_ofList).symm.trans (congrArg String.toList same))

/-- The lowercase form of a text ends with that of its rest. -/
theorem lowercaseAfter_suffix (before text rest : List Char) :
    lowercaseAfter (text.reverse ++ before) rest <:+ lowercaseAfter before (text ++ rest) := by
  induction text generalizing before with
  | nil => exact List.suffix_refl _
  | cons c text ih =>
    obtain ⟨lowered, step, -⟩ := exists_lowercaseAfter_cons before c (text ++ rest)
    rw [List.cons_append, step, List.reverse_cons, List.append_assoc]
    exact (ih (c :: before)).trans (List.suffix_append ..)

/-- Lowercase characters at the start of a text stand at the start of its lowercase form. -/
theorem prefix_lowercaseAfter {name : List Char} (lower : ∀ c ∈ name, IsLower c)
    (before rest : List Char) : name <+: lowercaseAfter before (name ++ rest) := by
  induction name generalizing before with
  | nil => exact List.nil_prefix
  | cons c name ih =>
    obtain ⟨first, later⟩ := List.forall_mem_cons.mp lower
    obtain ⟨lowered, step, -, alone⟩ := exists_lowercaseAfter_cons before c (name ++ rest)
    rw [List.cons_append, step, alone.mpr first, List.singleton_append, List.cons_prefix_cons]
    exact ⟨rfl, ih later (c :: before)⟩

/-- What lowercase characters spell in a text they spell in its lowercase form too. -/
theorem infix_lowercase {name : List Char} (lower : ∀ c ∈ name, IsLower c) {text : String}
    (written : name <:+: text.toList) : name <:+: (lowercase text).toList := by
  obtain ⟨before, after, same⟩ := written
  rw [lowercase, String.toList_ofList, ← same, List.append_assoc]
  calc name
    _ <:+: lowercaseAfter (before.reverse ++ []) (name ++ after) :=
      (prefix_lowercaseAfter lower _ after).isInfix
    _ <:+: lowercaseAfter [] (before ++ (name ++ after)) :=
      (lowercaseAfter_suffix [] before (name ++ after)).isInfix

end ArgoQuery.Text
