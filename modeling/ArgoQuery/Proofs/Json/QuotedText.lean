import ArgoQuery.Json.Printer
import ArgoQuery.Json.Tree
import Mathlib.Tactic.SplitIfs

/-!
# Text between quotes is read as it was written

The writer puts a text between quotes and escapes the characters that cannot stand there. Main
statement: `splitQuoted?_escape`. Behind the opening quote the reader finds the same text again and
leaves what follows the closing one.

A character is written in one of three ways: as itself, as a letter behind a backslash, or by its
number. Only the last one is read as a number, and as such a number is below 32 it is no half of a
surrogate pair.
-/

namespace ArgoQuery

namespace QuotedPart

/-- What a character is read as where it was written: the controls that no letter stands for are
given by their numbers. -/
def ofChar (c : Char) : QuotedPart :=
  if c ∈ ['\x08', '\x0c', '\n', '\r', '\t'] then .character c
  else if c.toNat < 32 then .unit c.toNat
  else .character c

/-- A letter behind a backslash is one element. -/
theorem split?_letter {letter c : Char} (stands : escaped? letter = some c) (rest : List Char) :
    split? ('\\' :: letter :: rest) =
      (split? rest).map fun (parts, after) => (character c :: parts, after) := by
  have apart : letter ≠ 'u' := by
    rintro rfl
    cases stands
  rw [split?, stands]
  · cases split? rest <;> rfl
  · intro _ _ _ _ _ same
    exact absurd same apart

/-- Two digits behind two zeros give the number of a control. -/
theorem hexNumber?_control : ∀ code < 32,
    hexNumber? ['0', '0', Nat.digitChar (code / 16), Nat.digitChar (code % 16)] = some code := by
  decide

/-- A control character is read back from the four hexadecimal digits that are written for it. -/
theorem split?_control {code : Nat} (control : code < 32) (rest : List Char) :
    split? ('\\' :: 'u' :: '0' :: '0' :: Nat.digitChar (code / 16) :: Nat.digitChar (code % 16) ::
        rest) =
      (split? rest).map fun (parts, after) => (unit code :: parts, after) := by
  rw [split?, hexNumber?_control code control]
  cases split? rest <;> rfl

/-- A character that needs no backslash is one element. -/
theorem split?_ordinary {c : Char} (quote : c ≠ '"') (backslash : c ≠ '\\')
    (visible : ¬ c.toNat < 32) (rest : List Char) :
    split? (c :: rest) = (split? rest).map fun (parts, after) => (character c :: parts, after) := by
  rw [split?, if_neg visible]
  · exact quote
  · intro _ _ _ _ _ same
    exact absurd same backslash
  · intro _ _ same
    exact absurd same backslash

/-- A written character is read as one element. -/
theorem split?_escape (c : Char) (rest : List Char) :
    split? (Json.escape c ++ rest) =
      (split? rest).map fun (parts, after) => (ofChar c :: parts, after) := by
  unfold Json.escape
  split
  case h_8 quote backslash back feed line carriage tab =>
    have unlettered : c ∉ ['\x08', '\x0c', '\n', '\r', '\t'] := by
      simpa using ⟨back, feed, line, carriage, tab⟩
    by_cases control : c.toNat < 32
    · rw [if_pos control, ofChar, if_neg unlettered, if_pos control]
      exact split?_control control rest
    · rw [if_neg control, ofChar, if_neg unlettered, if_neg control]
      exact split?_ordinary quote backslash control rest
  all_goals exact split?_letter rfl rest

/-- A number below those of the surrogates is one character, whatever follows it. -/
theorem characters?_unit {code : Nat} (low : code < 0xD800) (rest : List QuotedPart) :
    characters? (unit code :: rest) = (characters? rest).map (Char.ofNat code :: ·) := by
  cases rest with
  | nil =>
    have single : ¬ (0xD800 ≤ code ∧ code < 0xE000) := by omega
    simp [characters?, single]
  | cons next later =>
    cases next with
    | character c =>
      have single : ¬ (0xD800 ≤ code ∧ code < 0xE000) := by omega
      simp [characters?, single]
    | unit other =>
      have first : ¬ (0xD800 ≤ code ∧ code < 0xDC00) := by omega
      have second : ¬ (0xDC00 ≤ code ∧ code < 0xE000) := by omega
      rw [characters?, if_neg first, if_neg second]

/-- A character is put together again from the parts that it is written in. -/
@[simp]
theorem characters?_ofChar (c : Char) (rest : List QuotedPart) :
    characters? (ofChar c :: rest) = (characters? rest).map (c :: ·) := by
  rw [ofChar]
  split_ifs with lettered control
  · rw [characters?]
  · rw [characters?_unit (by omega), Char.ofNat_toNat]
  · rw [characters?]

end QuotedPart

/-- Written characters up to a quote are read as they were, and what follows the quote is left. -/
theorem splitQuoted?_escape (text : String) (rest : List Char) :
    splitQuoted? (text.toList.flatMap Json.escape ++ '"' :: rest) = some (some text, rest) := by
  have parts (characters : List Char) :
      QuotedPart.split? (characters.flatMap Json.escape ++ '"' :: rest) =
        some (characters.map QuotedPart.ofChar, rest) := by
    induction characters with
    | nil => rfl
    | cons c characters ih =>
      rw [List.flatMap_cons, List.append_assoc, QuotedPart.split?_escape, ih]
      rfl
  have whole (characters : List Char) :
      QuotedPart.characters? (characters.map QuotedPart.ofChar) = some characters := by
    induction characters with
    | nil => rfl
    | cons c characters ih =>
      rw [List.map_cons, QuotedPart.characters?_ofChar, ih]
      rfl
  rw [splitQuoted?, parts, Option.map_some]
  dsimp only
  rw [whole, Option.map_some, String.ofList_toList]

end ArgoQuery
