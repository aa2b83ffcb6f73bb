import ArgoQuery.Proofs.Calendar.YearWords
import ArgoQuery.Proofs.Geography.ReadableCoordinates

/-!
# Phrases that others mask

Years and coordinate pairs are looked for with digits of any script, only the first one found
counts, and it has a value only if its digits are ASCII ones. So a phrase that could be read is
masked by an unreadable one that begins before it (`recognised_masked`), and by nothing else:
`recognised_iff`.
-/

namespace ArgoQuery

open Calendar (DateHint YearWord)
open Geography (Gazetteer WrittenPair)

section Phrases

variable {α β γ : Type} {stands : α → List Char → List Char → Prop} {readable : α → Prop}
  {text : List Char}

/-- Whether a text has a readable phrase before which no unreadable one begins; `stands` tells which
phrases stand in a text, and behind which beginnings. -/
def HasUnmasked (stands : α → List Char → List Char → Prop) (readable : α → Prop)
    (text : List Char) : Prop :=
  ∃ phrase before, stands phrase before text ∧ readable phrase ∧
    ∀ other before', stands other before' text → before'.length < before.length → readable other

/-- There is such a phrase exactly if the first one is readable. -/
theorem hasUnmasked_iff_of_first {phrase : α} {before : List Char}
    (here : stands phrase before text)
    (earliest : ∀ other before', stands other before' text → before.length ≤ before'.length)
    (alike : ∀ other before', stands other before' text → before.length = before'.length →
      readable other → readable phrase) :
    HasUnmasked stands readable text ↔ readable phrase := by
  constructor
  · rintro ⟨other, before', there, readable_other, none_before⟩
    rcases (earliest other before' there).lt_or_eq with earlier | same
    · exact none_before phrase before here earlier
    · exact alike other before' there same readable_other
  · intro readable_phrase
    refine ⟨phrase, before, here, readable_phrase, fun other before' there earlier => ?_⟩
    exact absurd earlier (Nat.not_lt.mpr (earliest other before' there))

/-- Reading the first phrase as it is spelled succeeds exactly if a text has an unmasked one. -/
theorem isSome_bind_iff_hasUnmasked {found : Option β} {spelling : α → β} {value : β → Option γ}
    (complete : ∀ phrase before, stands phrase before text → found.isSome = true)
    (sound : ∀ spelled, found = some spelled → ∃ phrase before, spelling phrase = spelled ∧
      stands phrase before text ∧
      ∀ other before', stands other before' text → before.length ≤ before'.length)
    (alike : ∀ phrase other before before', stands phrase before text →
      stands other before' text → before.length = before'.length → spelling phrase = spelling other)
    (readable_iff : ∀ phrase, readable phrase ↔ (value (spelling phrase)).isSome = true) :
    (found.bind value).isSome = true ↔ HasUnmasked stands readable text := by
  cases search : found with
  | none =>
    refine iff_of_false Bool.false_ne_true ?_
    rintro ⟨phrase, before, here, -⟩
    have first := complete phrase before here
    rw [search] at first
    cases first
  | some spelled =>
    obtain ⟨phrase, before, rfl, here, earliest⟩ := sound spelled search
    rw [Option.bind_some, ← readable_iff]
    refine (hasUnmasked_iff_of_first here earliest fun other before' there place => ?_).symm
    rw [readable_iff, readable_iff, alike phrase other before before' here there place]
    exact id

end Phrases

namespace Calendar

/-- A text mentions a year exactly if it has an unmasked one. -/
theorem isSome_yearIn?_iff {lowered : List Char} :
    (DateHint.yearIn? lowered).isSome = true ↔
      HasUnmasked YearWord.StandsBehind YearWord.IsAscii lowered := by
  refine isSome_bind_iff_hasUnmasked (fun _ _ => isSome_firstYearDigits?)
    (fun _ => exists_of_firstYearDigits?) ?_ ?_
  · intro word other before before' stands stands' place
    rw [stands.unique stands' place]
  · intro word
    simp only [YearWord.IsAscii, Option.isSome_ite, Bool.and_eq_true]

/-- A hint with a year is found exactly if the text has an unmasked one. -/
theorem exists_year_iff {text : String} :
    (∃ hint, DateHint.ofText? text = some hint ∧ hint.year.isSome = true) ↔
      HasUnmasked YearWord.StandsBehind YearWord.IsAscii (Text.lowercase text).toList := by
  have mentioned_year :
      (DateHint.ofText text).year = DateHint.yearIn? (Text.lowercase text).toList := by
    rw [DateHint.ofText]
  rw [← isSome_yearIn?_iff, ← mentioned_year]
  simp only [DateHint.ofText?, Option.ite_none_left_eq_some]
  generalize DateHint.ofText text = mentioned
  constructor
  · rintro ⟨hint, ⟨-, same⟩, year⟩
    cases same
    exact year
  · intro year
    refine ⟨mentioned, ⟨?_, rfl⟩, year⟩
    rw [DateHint.isEmpty, ← Option.not_isSome, year]
    exact Bool.false_ne_true

end Calendar

namespace Geography

/-- What is read at a place does not depend on how it is split into parts. -/
theorem WrittenPair.StandsBehind.read_eq {pair other : WrittenPair}
    {before before' text : List Char}
    (stands : pair.StandsBehind before text) (stands' : other.StandsBehind before' text)
    (place : before.length = before'.length) : pair.read = other.read := by
  obtain ⟨rest, rfl⟩ := stands
  obtain ⟨rest', same⟩ := stands'
  rw [List.append_assoc, List.append_assoc] at same
  have read := pair.atStart?_append rest
  rw [← List.append_inj_right same place.symm, other.atStart?_append rest'] at read
  exact (Option.some.inj read).symm

/-- A written pair has degrees exactly if its digits are ASCII ones. -/
theorem isSome_degrees?_iff {pair : WrittenPair} :
    pair.read.degrees?.isSome = true ↔ pair.IsAscii := by
  constructor
  · intro some
    obtain ⟨degrees, read⟩ := Option.isSome_iff_exists.mp some
    exact WrittenPair.isAscii_of_degrees? read
  · intro ascii
    rw [WrittenPair.degrees?_read ascii]
    rfl

/-- A text has a coordinate pair with a value exactly if it has an unmasked pair. -/
theorem isSome_coordinatesIn?_iff {gazetteer : Gazetteer} {text : String} :
    (gazetteer.coordinatesIn? text).isSome = true ↔
      HasUnmasked WrittenPair.StandsBehind WrittenPair.IsAscii text.toList := by
  refine isSome_bind_iff_hasUnmasked (fun _ _ => WrittenPair.isSome_firstIn?)
    (fun _ => WrittenPair.exists_of_firstIn?) ?_ ?_
  · intro pair other before before' stands stands' place
    exact stands.read_eq stands' place
  · intro pair
    rw [← isSome_degrees?_iff]
    cases pair.read.degrees? <;> rfl

/-- A gazetteer finds a region exactly if one of its regions occurs in the text. -/
theorem isSome_regionIn?_iff {gazetteer : Gazetteer} {text : String} :
    (gazetteer.regionIn? text).isSome = true ↔
      ∃ region ∈ gazetteer.regions, region.OccursIn text := by
  rw [← Option.not_isNone, Bool.not_eq_true', ← Bool.not_eq_true, Option.isNone_iff_eq_none,
    regionIn?_eq_none_iff]
  simp only [not_forall, not_not, exists_prop]

end Geography

/-- A phrase is recognised exactly if no unreadable one begins before it.

A hint with a year is found in a text exactly if its lowercase form has a year in ASCII digits
before which no year with other digits stands. A text is located exactly if the name of a region
occurs in it or it has a coordinate pair in ASCII digits before which no pair with other digits
begins.

Only the first match is looked at, and it is readable exactly if its digits are ASCII ones. -/
theorem recognised_iff (gazetteer : Gazetteer) (text : String) :
    ((∃ hint, DateHint.ofText? text = some hint ∧ hint.year.isSome = true) ↔
      HasUnmasked YearWord.StandsBehind YearWord.IsAscii (Text.lowercase text).toList) ∧
    ((gazetteer.locate? text).isSome = true ↔
      (∃ region ∈ gazetteer.regions, region.OccursIn text) ∨
        HasUnmasked WrittenPair.StandsBehind WrittenPair.IsAscii text.toList) := by
  constructor
  · exact Calendar.exists_year_iff
  · rw [Gazetteer.locate?, Option.isSome_or, Bool.or_eq_true, Geography.isSome_regionIn?_iff,
      Geography.isSome_coordinatesIn?_iff]

/-- A year and a coordinate pair in ASCII digits that are not recognised, because others stand
before them. -/
theorem recognised_masked :
    ((∃ (word : YearWord) (before : List Char), word.IsAscii ∧
        word.StandsBehind before (Text.lowercase "20२३ and 2023").toList) ∧
      DateHint.ofText? "20२३ and 2023" = none) ∧
    (∃ (pair : WrittenPair) (before : List Char), pair.IsAscii ∧
        pair.StandsBehind before "at १५N 70E or 15N 70E".toList ∧
        before.getLast? = some ' ') ∧
      Gazetteer.builtin.locate? "at १५N 70E or 15N 70E" = none := by
  let word : YearWord := ⟨'2', '3', by decide, by decide⟩
  let pair : WrittenPair :=
    { latitude :=
        { number := ⟨['1', '5'], [], by simp, List.all_eq_true.mp rfl, by simp⟩
          gap := ⟨[], false, [], by simp, by simp⟩
          letter := 'N'
          isLetter_letter := by decide }
      gap := ⟨[' '], false, [], List.all_eq_true.mp rfl, by simp⟩
      longitude :=
        { number := ⟨['7', '0'], [], by simp, List.all_eq_true.mp rfl, by simp⟩
          gap := ⟨[], false, [], by simp, by simp⟩
          letter := 'E'
          isLetter_letter := by decide } }
  have year_stands : word.StandsBehind "20२३ and ".toList
      (Text.lowercase "20२३ and 2023").toList :=
    ⟨by decide +kernel, word.text, ⟨[], rfl, rfl⟩, by decide +kernel⟩
  have pair_stands : "at १५N 70E or ".toList ++ pair.text <+: "at १५N 70E or 15N 70E".toList := by
    decide +kernel
  exact ⟨⟨⟨word, _, by decide, year_stands⟩, by decide +kernel⟩,
    ⟨pair, _, by decide, pair_stands, by decide +kernel⟩, by decide +kernel⟩

end ArgoQuery
