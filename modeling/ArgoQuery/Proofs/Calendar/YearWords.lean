import ArgoQuery.Calendar.DateHint
import Mathlib.Data.List.Basic

/-!
# Years as they are written

A year is written as 20 and two more digits of any script, and it must stand as a word of its own.
The search for it goes along a text and only remembers whether the character before was part of a
word. So what it finds is the year that stands first (`exists_of_firstYearDigits?`), and it finds
one where there is any (`isSome_firstYearDigits?`).
-/

namespace ArgoQuery.Calendar

open DateHint (firstYearDigits? wordEnds)
open Text (isDecimalDigit isWordCharacter)

/-- A year as it is written: 20 and two decimal digits of any script. -/
structure YearWord where
  tens : Char
  ones : Char
  tens_digit : isDecimalDigit tens = true
  ones_digit : isDecimalDigit ones = true

namespace YearWord

/-- The characters of a written year. -/
def text (word : YearWord) : List Char := ['2', '0', word.tens, word.ones]

/-- Whether the digits of a year are ASCII ones. -/
def IsAscii (word : YearWord) : Prop := word.tens.isDigit = true ∧ word.ones.isDigit = true

instance (word : YearWord) : Decidable word.IsAscii := inferInstanceAs (Decidable (_ ∧ _))

/-- Whether a text starts with a year after which no word goes on. -/
def Starts (word : YearWord) (text : List Char) : Prop :=
  ∃ after, wordEnds after = true ∧ text = word.text ++ after

/-- Whether a year stands in a text behind the given beginning, as a word of its own. Before the
text come the characters `passed`, the last first. -/
def StandsAfter (passed : List Char) (word : YearWord) (before text : List Char) : Prop :=
  wordEnds (before.reverse ++ passed) = true ∧ ∃ rest, word.Starts rest ∧ text = before ++ rest

/-- Whether a year stands in a whole text behind the given beginning, as a word of its own. -/
def StandsBehind (word : YearWord) (before text : List Char) : Prop :=
  word.StandsAfter [] before text

variable {word : YearWord} {text : List Char}

/-- A year that stands in the rest of a text stands in the text, one place further on. -/
theorem StandsAfter.cons {passed before : List Char} {c : Char}
    (stands : word.StandsAfter (c :: passed) before text) :
    word.StandsAfter passed (c :: before) (c :: text) := by
  obtain ⟨begins, rest, starts, rfl⟩ := stands
  refine ⟨?_, rest, starts, rfl⟩
  rwa [List.reverse_cons, List.append_assoc]

/-- A year that does not stand at the start of a text stands in its rest. -/
theorem StandsAfter.of_cons {passed before : List Char} {c : Char}
    (stands : word.StandsAfter passed (c :: before) text) :
    ∃ rest, text = c :: rest ∧ word.StandsAfter (c :: passed) before rest := by
  obtain ⟨begins, rest, starts, rfl⟩ := stands
  rw [List.reverse_cons, List.append_assoc] at begins
  exact ⟨before ++ rest, rfl, begins, rest, starts, rfl⟩

/-- No more than one year starts a text. -/
theorem Starts.unique {other : YearWord} (starts : word.Starts text)
    (starts' : other.Starts text) : word = other := by
  obtain ⟨after, -, same⟩ := starts
  obtain ⟨after', -, same'⟩ := starts'
  rw [same] at same'
  cases word
  cases other
  simp only [YearWord.text, List.cons_append, List.cons.injEq] at same'
  obtain ⟨-, -, rfl, rfl, -⟩ := same'
  rfl

/-- No more than one year stands at a place. -/
theorem StandsBehind.unique {other : YearWord} {before before' : List Char}
    (stands : word.StandsBehind before text) (stands' : other.StandsBehind before' text)
    (place : before.length = before'.length) : word = other := by
  obtain ⟨-, rest, starts, rfl⟩ := stands
  obtain ⟨-, rest', starts', same⟩ := stands'
  obtain ⟨rfl, rfl⟩ := List.append_inj same place
  exact starts.unique starts'

end YearWord

/-- A year that starts a text is found, unless it is the rest of a longer word. -/
theorem firstYearDigits?_of_starts {word : YearWord} {text : List Char}
    (starts : word.Starts text) : firstYearDigits? false text = some (word.tens, word.ones) := by
  obtain ⟨after, ends, rfl⟩ := starts
  simp only [YearWord.text, List.cons_append, List.nil_append, firstYearDigits?, word.tens_digit,
    word.ones_digit, ends, Bool.and_self, if_true]

/-- Where no year starts the search goes on behind the first character. -/
theorem firstYearDigits?_cons {passed rest : List Char} {c : Char}
    (none_here : ¬ ∃ word : YearWord, wordEnds passed = true ∧ word.Starts (c :: rest)) :
    firstYearDigits? (!wordEnds passed) (c :: rest) =
      firstYearDigits? (!wordEnds (c :: passed)) rest := by
  have next : (!wordEnds (c :: passed)) = isWordCharacter c := Bool.not_not _
  rw [next, DateHint.firstYearDigits?.eq_def]
  dsimp only
  split
  · rename_i tens ones after outside
    split_ifs with year
    · simp only [Bool.and_eq_true] at year
      rw [Bool.not_eq_false'] at outside
      exact absurd ⟨⟨tens, ones, year.1.1, year.1.2⟩, outside, after, year.2, rfl⟩ none_here
    · rfl
  · rfl

section Search

variable {passed text : List Char}

/-- A year that stands ahead is not missed. -/
theorem isSome_of_standsAfter {word : YearWord} {before : List Char}
    (stands : word.StandsAfter passed before text) :
    (firstYearDigits? (!wordEnds passed) text).isSome = true := by
  induction before generalizing passed text with
  | nil =>
    obtain ⟨begins, rest, starts, rfl⟩ := stands
    rw [List.reverse_nil, List.nil_append] at begins
    rw [begins, Bool.not_true, firstYearDigits?_of_starts starts]
    rfl
  | cons c before ih =>
    obtain ⟨rest, rfl, later⟩ := stands.of_cons
    by_cases here : ∃ word : YearWord, wordEnds passed = true ∧ word.Starts (c :: rest)
    · obtain ⟨word, begins, starts⟩ := here
      rw [begins, Bool.not_true, firstYearDigits?_of_starts starts]
      rfl
    · rw [firstYearDigits?_cons here]
      exact ih later

/-- What is found ahead is the year that stands there first. -/
theorem exists_standsAfter {digits : Char × Char}
    (found : firstYearDigits? (!wordEnds passed) text = some digits) :
    ∃ (word : YearWord) (before : List Char), (word.tens, word.ones) = digits ∧
      word.StandsAfter passed before text ∧
      ∀ (other : YearWord) (before' : List Char), other.StandsAfter passed before' text →
        before.length ≤ before'.length := by
  induction text generalizing passed with
  | nil => cases found
  | cons c rest ih =>
    by_cases here : ∃ word : YearWord, wordEnds passed = true ∧ word.Starts (c :: rest)
    · obtain ⟨word, begins, starts⟩ := here
      rw [begins, Bool.not_true, firstYearDigits?_of_starts starts] at found
      exact ⟨word, [], Option.some.inj found, ⟨begins, _, starts, rfl⟩, fun _ _ _ => Nat.zero_le _⟩
    · rw [firstYearDigits?_cons here] at found
      obtain ⟨word, before, same, stands, earliest⟩ := ih found
      refine ⟨word, c :: before, same, stands.cons, ?_⟩
      intro other before' stands'
      cases before' with
      | nil =>
        obtain ⟨begins, _, starts, rfl⟩ := stands'
        exact absurd ⟨other, begins, starts⟩ here
      | cons d before' =>
        obtain ⟨_, same, later⟩ := stands'.of_cons
        cases same
        exact Nat.succ_le_succ (earliest other before' later)

end Search

variable {text : List Char}

/-- A text in which a year stands has a first one. -/
theorem isSome_firstYearDigits? {word : YearWord} {before : List Char}
    (stands : word.StandsBehind before text) : (firstYearDigits? false text).isSome = true :=
  isSome_of_standsAfter stands

/-- The digits that are found are those of the year that stands first. -/
theorem exists_of_firstYearDigits? {digits : Char × Char}
    (found : firstYearDigits? false text = some digits) :
    ∃ (word : YearWord) (before : List Char), (word.tens, word.ones) = digits ∧
      word.StandsBehind before text ∧
      ∀ (other : YearWord) (before' : List Char), other.StandsBehind before' text →
        before.length ≤ before'.length :=
  exists_standsAfter found

end ArgoQuery.Calendar
