import ArgoQuery.Proofs.Geography.NamedRegions
import ArgoQuery.Proofs.Geography.WrittenCoordinates

/-!
# Coordinate pairs that have a value

A number has a value exactly if its digits are ASCII ones (`degrees?_read`, `isAscii_of_degrees?`).
So a written pair whose digits are is read back with the values of its numbers, in whatever way it
is spaced, if no digit stands before it and no region is named. Main statement:
`locate?_of_written`.
-/

namespace ArgoQuery.Geography

open Binary64 (AreDigits nearestDecimal)
open Text (isDecimalDigit)

instance (text : List Char) : Decidable (AreDigits text) :=
  decidable_of_iff (text.all Char.isDigit = true) List.all_eq_true

/-- The decimal digits among the ASCII characters are the ten from zero to nine. -/
theorem isDigit_of_ascii {c : Char} (digit : isDecimalDigit c = true) (ascii : c.toNat < 128) :
    c.isDigit = true := by
  rwa [isDecimalDigit, if_pos ascii] at digit

namespace WrittenNumber

/-- Whether all digits of a number are ASCII ones. -/
def IsAscii (number : WrittenNumber) : Prop :=
  AreDigits number.whole ∧ AreDigits number.fraction

instance (number : WrittenNumber) : Decidable number.IsAscii := inferInstanceAs (Decidable (_ ∧ _))

/-- The value of a number: the nearest one to what its digits say. -/
def value (number : WrittenNumber) : Binary64 := nearestDecimal number.whole number.fraction

/-- A number with ASCII digits has its value. -/
theorem readDecimal?_text {number : WrittenNumber} (ascii : number.IsAscii) :
    Binary64.readDecimal? false number.text = some number.value := by
  rw [text, value]
  split_ifs with without
  · rw [List.append_nil, without]
    exact Binary64.readDecimal?_of_digits number.whole_ne_nil ascii.1
  · exact Binary64.readDecimal?_of_point number.whole_ne_nil ascii.1 ascii.2

/-- No other number has any. -/
theorem isAscii_of_readDecimal? {number : WrittenNumber} {value : Binary64}
    (read : Binary64.readDecimal? false number.text = some value) : number.IsAscii := by
  have ascii := Binary64.isAsciiText_of_readDecimal? read
  rw [text] at ascii
  constructor
  · intro c member
    exact isDigit_of_ascii (number.whole_digits c member) (ascii c (List.mem_append_left _ member))
  · intro c member
    refine isDigit_of_ascii (number.fraction_digits c member)
      (ascii c (List.mem_append_right _ ?_))
    rw [if_neg (List.ne_nil_of_mem member)]
    exact List.mem_cons_of_mem _ member

end WrittenNumber

namespace WrittenPair

/-- Whether all digits of a pair are ASCII ones. -/
def IsAscii (pair : WrittenPair) : Prop :=
  pair.latitude.number.IsAscii ∧ pair.longitude.number.IsAscii

instance (pair : WrittenPair) : Decidable pair.IsAscii := inferInstanceAs (Decidable (_ ∧ _))

/-- The latitude in degrees, negative exactly if the letter is that of the south. -/
def lat (pair : WrittenPair) : Binary64 :=
  if pair.latitude.letter = 'S' ∨ pair.latitude.letter = 's' then -pair.latitude.number.value
  else pair.latitude.number.value

/-- The longitude in degrees, negative exactly if the letter is that of the west. -/
def lon (pair : WrittenPair) : Binary64 :=
  if pair.longitude.letter = 'W' ∨ pair.longitude.letter = 'w' then -pair.longitude.number.value
  else pair.longitude.number.value

/-- A pair that is written in ASCII digits has the degrees that it spells. -/
theorem degrees?_read {pair : WrittenPair} (ascii : pair.IsAscii) :
    pair.read.degrees? = some (pair.lat, pair.lon) := by
  rw [CoordinatePair.degrees?, read]
  simp only [WrittenNumber.readDecimal?_text ascii.1, WrittenNumber.readDecimal?_text ascii.2,
    Option.bind_eq_bind, Option.bind_some, Bool.or_eq_true, beq_iff_eq]
  rfl

/-- Only a pair that is written in ASCII digits has degrees. -/
theorem isAscii_of_degrees? {pair : WrittenPair} {degrees : Binary64 × Binary64}
    (read : pair.read.degrees? = some degrees) : pair.IsAscii := by
  obtain ⟨lat, latitude, read⟩ := Option.bind_eq_some_iff.mp read
  obtain ⟨lon, longitude, -⟩ := Option.bind_eq_some_iff.mp read
  exact ⟨WrittenNumber.isAscii_of_readDecimal? latitude,
    WrittenNumber.isAscii_of_readDecimal? longitude⟩

end WrittenPair

/-- Every written coordinate pair is read back.

If a text names no region of the gazetteer and no decimal digit of any script stands before a pair
with ASCII digits, then the text is located in the box around the values of the two numbers, the
first negated exactly for the south and the second exactly for the west. The words that say so are
those from the first digit of the pair to its second letter.

The search passes the text before the pair, as it meets no digit there, and then reads digit by
digit what the pair is written in. -/
theorem locate?_of_written {gazetteer : Gazetteer} {text : String} {before after : List Char}
    {pair : WrittenPair} (written : text.toList = before ++ (pair.text ++ after))
    (plain : ∀ c ∈ before, isDecimalDigit c = false) (ascii : pair.IsAscii)
    (unnamed : ∀ region ∈ gazetteer.regions, ¬ region.OccursIn text) :
    gazetteer.locate? text = some {
      box := GeoBox.around pair.lat pair.lon gazetteer.halfWidth
      label := "Near " ++ pair.lat.plain ++ "°, " ++ pair.lon.plain ++ "°"
      matched := String.ofList pair.text } := by
  have first : CoordinatePair.firstIn? text.toList = some pair.read := by
    rw [written, WrittenPair.firstIn?_append_of_no_digit plain]
    exact WrittenPair.firstIn?_of_isPrefix (List.prefix_append ..)
  exact locate?_of_coordinates (regionIn?_eq_none_iff.mpr unnamed) first
    (WrittenPair.degrees?_read ascii)

/-- A pair with a small letter and white space of several kinds, before another pair. -/
theorem locate?_of_written_between_words :
    let text := "near\u2003 07.5 °  s\u00A0,170°W, not 3N 4E"
    (∀ region ∈ Gazetteer.builtin.regions, ¬ region.OccursIn text) ∧
      Gazetteer.builtin.locate? text = some {
        box := GeoBox.around (-7.5) (-170) 5
        label := "Near -7.5°, -170°"
        matched := "07.5 °  s\u00A0,170°W" } := by
  intro text
  have unnamed : ∀ region ∈ Gazetteer.builtin.regions, ¬ region.OccursIn text := by
    decide +kernel
  let pair : WrittenPair :=
    { latitude :=
        { number := ⟨['0', '7'], ['5'], by simp, List.all_eq_true.mp rfl, List.all_eq_true.mp rfl⟩
          gap := ⟨[' '], true, [' ', ' '], List.all_eq_true.mp rfl, List.all_eq_true.mp rfl⟩
          letter := 's'
          isLetter_letter := by decide }
      gap := ⟨['\u00A0'], true, [], List.all_eq_true.mp rfl, by simp⟩
      longitude :=
        { number := ⟨['1', '7', '0'], [], by simp, List.all_eq_true.mp rfl, by simp⟩
          gap := ⟨[], true, [], by simp, by simp⟩
          letter := 'W'
          isLetter_letter := by decide } }
  have written : text.toList = "near\u2003 ".toList ++ (pair.text ++ ", not 3N 4E".toList) := by
    decide +kernel
  have plain : ∀ c ∈ "near\u2003 ".toList, isDecimalDigit c = false := by
    simpa using (by decide +kernel : "near\u2003 ".toList.all (!isDecimalDigit ·) = true)
  have degrees : pair.lat = -7.5 ∧ pair.lon = -170 := by decide +kernel
  have label : "Near " ++ (-7.5 : Binary64).plain ++ "°, " ++ (-170 : Binary64).plain ++ "°" =
      "Near -7.5°, -170°" := by decide +kernel
  have words : String.ofList pair.text = "07.5 °  s\u00A0,170°W" := by decide +kernel
  have located : Gazetteer.builtin.locate? text = some _ :=
    locate?_of_written written plain (by decide) unnamed
  rw [degrees.1, degrees.2, label, words] at located
  exact ⟨unnamed, located⟩

end ArgoQuery.Geography
