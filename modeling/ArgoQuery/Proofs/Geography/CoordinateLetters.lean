import ArgoQuery.Geography.Gazetteer
import ArgoQuery.Proofs.Text.LetterCase
import Mathlib.Tactic.SplitIfs

/-!
# Coordinate pairs in capital and small letters

Coordinates are read from a text as it is written, letters in either case. A number has no letters,
and a letter names the same hemisphere in both cases. So from a text in small letters the same pair
is read, part by part (`atStart?_map_toLower`) and from place to place (`firstIn?_map_toLower`);
only the words it was read from are in small letters. Main statement: `place_of_agreeButCase`.
-/

namespace ArgoQuery.Geography

open Text

/-- Whether a character is a digit does not depend on its case. -/
theorem isDecimalDigit_comp_toLower : isDecimalDigit ∘ Char.toLower = isDecimalDigit :=
  comp_toLower isDecimalDigit (by decide +kernel)

/-- Whether a character is white space does not depend on its case. -/
theorem isBlank_comp_toLower : isBlank ∘ Char.toLower = isBlank :=
  comp_toLower isBlank (by decide +kernel)

/-- Digits have no letter case. -/
theorem map_toLower_of_digits {text : List Char} (digits : ∀ c ∈ text, isDecimalDigit c = true) :
    text.map Char.toLower = text := by
  have letters : capitals.all (fun c => !isDecimalDigit c) = true := by decide +kernel
  refine (List.map_congr_left fun c member => ?_).trans text.map_id
  refine toLower_eq_self fun capital => ?_
  have letter := List.all_eq_true.mp letters c capital
  rw [digits c member] at letter
  cases letter

/-- The digits at the start of a text are those of the text in small letters. -/
@[simp]
theorem takeWhile_isDecimalDigit_map_toLower (text : List Char) :
    (text.map Char.toLower).takeWhile isDecimalDigit = text.takeWhile isDecimalDigit := by
  rw [List.takeWhile_map, isDecimalDigit_comp_toLower]
  exact map_toLower_of_digits (List.all_eq_true.mp List.all_takeWhile)

/-- What follows the digits at the start of a text is the same in small letters. -/
@[simp]
theorem dropWhile_isDecimalDigit_map_toLower (text : List Char) :
    (text.map Char.toLower).dropWhile isDecimalDigit =
      (text.dropWhile isDecimalDigit).map Char.toLower := by
  rw [List.dropWhile_map, isDecimalDigit_comp_toLower]

/-- The same number is split off a text in small letters. -/
theorem splitNumber?_map_toLower (text : List Char) :
    splitNumber? (text.map Char.toLower) =
      (splitNumber? text).map fun (number, rest) => (number, rest.map Char.toLower) := by
  have point := toLower_eq_iff '.' (by decide +kernel)
  simp only [splitNumber?, takeWhile_isDecimalDigit_map_toLower,
    dropWhile_isDecimalDigit_map_toLower]
  cases (text.takeWhile isDecimalDigit).isEmpty with
  | true => rfl
  | false =>
    cases text.dropWhile isDecimalDigit with
    | nil => rfl
    | cons c after =>
      by_cases dot : c = '.'
      · have small : Char.toLower '.' = '.' := by decide
        subst dot
        simp only [List.map_cons, small, Bool.false_eq_true, if_false,
          takeWhile_isDecimalDigit_map_toLower, dropWhile_isDecimalDigit_map_toLower]
        split_ifs
        · simp only [Option.map_some, List.map_cons, small]
        · rfl
      · simp [dot, point]

/-- What follows the white space at the start of a text is the same in small letters. -/
@[simp]
theorem skipBlanks_map_toLower (text : List Char) :
    skipBlanks (text.map Char.toLower) = (skipBlanks text).map Char.toLower := by
  rw [skipBlanks, List.dropWhile_map, isBlank_comp_toLower, skipBlanks]

/-- White space and a sign that is no letter are passed over in a text in small letters too. -/
theorem skipAround_map_toLower {sign : Char}
    (letterless : ∀ c : Char, c.toLower = sign ↔ c = sign) (text : List Char) :
    skipAround sign (text.map Char.toLower) = (skipAround sign text).map Char.toLower := by
  rw [skipAround, skipBlanks_map_toLower, skipAround]
  cases skipBlanks text with
  | nil => rfl
  | cons c rest =>
    simp only [List.map_cons, letterless c]
    split_ifs
    · exact skipBlanks_map_toLower rest
    · rfl

/-- The same coordinate is split off a text in small letters. -/
theorem splitCoordinate?_map_toLower {isLetter : Char → Bool}
    (either : isLetter ∘ Char.toLower = isLetter) (text : List Char) :
    splitCoordinate? isLetter (text.map Char.toLower) =
      (splitCoordinate? isLetter text).map fun (number, letter, after) =>
        (number, letter.toLower, after.map Char.toLower) := by
  have degree := toLower_eq_iff '°' (by decide +kernel)
  rw [splitCoordinate?, splitNumber?_map_toLower, splitCoordinate?]
  cases splitNumber? text with
  | none => rfl
  | some parts =>
    obtain ⟨number, rest⟩ := parts
    simp only [Option.map_some, Option.bind_eq_bind, Option.bind_some,
      skipAround_map_toLower degree]
    cases skipAround '°' rest with
    | nil => rfl
    | cons letter after =>
      have same : isLetter letter.toLower = isLetter letter := congrFun either letter
      simp only [List.map_cons, same]
      split_ifs <;> rfl

/-- The pair with the words it was read from in small letters. -/
def CoordinatePair.small (pair : CoordinatePair) : CoordinatePair :=
  { pair with matched := pair.matched.map Char.toLower }

/-- The same coordinate pair starts a text in small letters. -/
theorem atStart?_map_toLower (text : List Char) :
    CoordinatePair.atStart? (text.map Char.toLower) =
      (CoordinatePair.atStart? text).map CoordinatePair.small := by
  have comma := toLower_eq_iff ',' (by decide +kernel)
  have latitudes : isLatitudeLetter ∘ Char.toLower = isLatitudeLetter :=
    comp_toLower _ (by decide +kernel)
  have longitudes : isLongitudeLetter ∘ Char.toLower = isLongitudeLetter :=
    comp_toLower _ (by decide +kernel)
  have south : (fun c : Char => c == 'S' || c == 's') ∘ Char.toLower =
      fun c => c == 'S' || c == 's' := comp_toLower _ (by decide +kernel)
  have west : (fun c : Char => c == 'W' || c == 'w') ∘ Char.toLower =
      fun c => c == 'W' || c == 'w' := comp_toLower _ (by decide +kernel)
  rw [CoordinatePair.atStart?, splitCoordinate?_map_toLower latitudes, CoordinatePair.atStart?]
  cases splitCoordinate? isLatitudeLetter text with
  | none => rfl
  | some parts =>
    obtain ⟨latitude, vertical, rest⟩ := parts
    simp only [Option.map_some, Option.bind_eq_bind, Option.bind_some,
      skipAround_map_toLower comma, splitCoordinate?_map_toLower longitudes]
    cases splitCoordinate? isLongitudeLetter (skipAround ',' rest) with
    | none => rfl
    | some parts =>
      obtain ⟨longitude, horizontal, after⟩ := parts
      have south := congrFun south vertical
      have west := congrFun west horizontal
      simp only [Function.comp_apply] at south west
      simp only [Option.map_some, Option.bind_some, south, west, List.length_map, ← List.map_take]
      rfl

/-- The same coordinate pair is the first in a text in small letters. -/
theorem firstIn?_map_toLower (text : List Char) :
    CoordinatePair.firstIn? (text.map Char.toLower) =
      (CoordinatePair.firstIn? text).map CoordinatePair.small := by
  induction text with
  | nil => rfl
  | cons c rest ih =>
    have start := atStart?_map_toLower (c :: rest)
    rw [List.map_cons] at start
    rw [List.map_cons, CoordinatePair.firstIn?, start, ih, CoordinatePair.firstIn?]
    cases CoordinatePair.atStart? (c :: rest) <;> rfl

/-- Where a match lies and what the place is called, without the words that say so. -/
def LocationMatch.place (location : LocationMatch) : GeoBox × String :=
  (location.box, location.label)

section Agree

variable (gazetteer : Gazetteer) {first second : String} (agree : AgreeButCase first second)

include agree

/-- Texts that agree but for the case of their letters name the same region. -/
theorem regionIn?_of_agreeButCase : gazetteer.regionIn? first = gazetteer.regionIn? second := by
  rw [Gazetteer.regionIn?, lowercase_eq_of_agreeButCase agree, Gazetteer.regionIn?]

/-- Two texts that agree but for the case of their letters name the same place by coordinates: both
name what the text in small letters says, as long as the words that say it are left out. -/
theorem coordinatesIn?_of_agreeButCase :
    (gazetteer.coordinatesIn? first).map LocationMatch.place =
      (gazetteer.coordinatesIn? second).map LocationMatch.place := by
  have small (text : String) : (gazetteer.coordinatesIn? text).map LocationMatch.place =
      ((CoordinatePair.firstIn? (text.toList.map Char.toLower)).bind
        CoordinatePair.degrees?).map fun degrees =>
          (GeoBox.around degrees.1 degrees.2 gazetteer.halfWidth,
            "Near " ++ degrees.1.plain ++ "°, " ++ degrees.2.plain ++ "°") := by
    rw [Gazetteer.coordinatesIn?, firstIn?_map_toLower]
    cases CoordinatePair.firstIn? text.toList with
    | none => rfl
    | some pair =>
      have degrees : pair.small.degrees? = pair.degrees? := rfl
      simp only [Option.map_some, Option.bind_eq_bind, Option.bind_some, degrees]
      cases pair.degrees? <;> rfl
  rw [small, small, agree]

/-- Texts that agree but for letter case are located at one place, or neither is located. -/
theorem place_of_agreeButCase :
    (gazetteer.locate? first).map LocationMatch.place =
      (gazetteer.locate? second).map LocationMatch.place := by
  rw [Gazetteer.locate?, regionIn?_of_agreeButCase gazetteer agree, Gazetteer.locate?]
  cases gazetteer.regionIn? second with
  | some region => rfl
  | none => exact coordinatesIn?_of_agreeButCase gazetteer agree

end Agree

end ArgoQuery.Geography
