import ArgoQuery.Geography.CoordinatePair
import ArgoQuery.Proofs.Binary64.DecimalText
import Mathlib.Data.List.TakeWhile

/-!
# Coordinate pairs as they are written

A written pair has a number, a letter, and again a number and a letter, with white space and signs
in the gaps. The reader takes each part as far as it goes, and what follows a part cannot belong to
it: a number ends before white space, signs and letters, and a gap ends before a letter or a digit.
So what is written at the start of a text is read (`atStart?_append`), and nothing else is
(`exists_of_atStart?`). Of the pairs written in a text the one that begins first is read:
`isSome_firstIn?`, `exists_of_firstIn?`.
-/

namespace ArgoQuery.Geography

open Text (isBlank isDecimalDigit)

/-- An unsigned number: digits of any script and, after a point, further digits if there are any. -/
structure WrittenNumber where
  whole : List Char
  fraction : List Char
  whole_ne_nil : whole ≠ []
  whole_digits : ∀ c ∈ whole, isDecimalDigit c = true
  fraction_digits : ∀ c ∈ fraction, isDecimalDigit c = true

/-- White space, and at most one sign in it. -/
structure Gap (sign : Char) where
  before : List Char
  signed : Bool
  after : List Char
  before_blank : ∀ c ∈ before, isBlank c = true
  after_blank : ∀ c ∈ after, isBlank c = true

/-- The characters of a number, with a point only before a fraction. -/
def WrittenNumber.text (number : WrittenNumber) : List Char :=
  number.whole ++ if number.fraction = [] then [] else '.' :: number.fraction

/-- The characters between a number and its letter. -/
def Gap.text {sign : Char} (gap : Gap sign) : List Char :=
  gap.before ++ ((if gap.signed then [sign] else []) ++ gap.after)

/-- A number with the letter of its hemisphere. -/
structure WrittenCoordinate (isLetter : Char → Bool) where
  number : WrittenNumber
  gap : Gap '°'
  letter : Char
  isLetter_letter : isLetter letter = true

/-- The characters of a coordinate: the number, the gap and the letter. -/
def WrittenCoordinate.text {isLetter : Char → Bool} (coordinate : WrittenCoordinate isLetter) :
    List Char :=
  coordinate.number.text ++ (coordinate.gap.text ++ [coordinate.letter])

/-- A latitude and a longitude. -/
structure WrittenPair where
  latitude : WrittenCoordinate isLatitudeLetter
  gap : Gap ','
  longitude : WrittenCoordinate isLongitudeLetter

namespace WrittenPair

/-- The characters of a pair: latitude, gap and longitude. -/
def text (pair : WrittenPair) : List Char :=
  pair.latitude.text ++ (pair.gap.text ++ pair.longitude.text)

/-- The pair that is read from what is written. -/
def read (pair : WrittenPair) : CoordinatePair where
  latitude := pair.latitude.number.text
  south := pair.latitude.letter == 'S' || pair.latitude.letter == 's'
  longitude := pair.longitude.number.text
  west := pair.longitude.letter == 'W' || pair.longitude.letter == 'w'
  matched := pair.text

end WrittenPair

/-- Whether the first character of a text, if there is one, passes a test. -/
def StartsWith (test : Char → Prop) (text : List Char) : Prop := ∀ c ∈ text.head?, test c

/-- Characters that all pass a test, and before a text whose first one does, start with one that
does. -/
theorem startsWith_append {test : Char → Prop} {text rest : List Char}
    (all : ∀ c ∈ text, test c) (next : StartsWith test rest) : StartsWith test (text ++ rest) := by
  cases text with
  | nil => exact next
  | cons c others =>
    intro d head
    cases head
    exact all c List.mem_cons_self

/-- All characters that are white space. -/
def blanks : List Char :=
  [0x9, 0xA, 0xB, 0xC, 0xD, 0x20, 0x85, 0xA0, 0x1680, 0x2000, 0x2001, 0x2002, 0x2003, 0x2004,
    0x2005, 0x2006, 0x2007, 0x2008, 0x2009, 0x200A, 0x2028, 0x2029, 0x202F, 0x205F, 0x3000].map
    Char.ofNat

/-- The listed characters are all the white space there is. -/
theorem mem_blanks {c : Char} (blank : isBlank c = true) : c ∈ blanks := by
  refine List.mem_map.mpr ⟨c.toNat, ?_, Char.ofNat_toNat c⟩
  simp only [isBlank, Bool.or_eq_true, Bool.and_eq_true, decide_eq_true_eq, beq_iff_eq] at blank
  simp only [List.mem_cons, List.not_mem_nil, or_false]
  omega

/-- White space is no part of a number. -/
theorem not_digit_of_isBlank {c : Char} (blank : isBlank c = true) :
    isDecimalDigit c = false ∧ c ≠ '.' := by
  have table : blanks.all (fun c => !isDecimalDigit c && c != '.') = true := by decide +kernel
  simpa using List.all_eq_true.mp table c (mem_blanks blank)

section Runs

variable {test : Char → Bool} {text rest : List Char} (run : ∀ c ∈ text, test c = true)
  (stop : StartsWith (test · = false) rest)

include run stop

/-- A run of characters that pass a test ends before one that does not. -/
theorem takeWhile_append_of_stop : (text ++ rest).takeWhile test = text := by
  rw [List.takeWhile_append_of_pos run]
  cases rest with
  | nil => exact List.append_nil text
  | cons c rest => rw [List.takeWhile_cons_of_neg (by simp [stop c rfl]), List.append_nil]

/-- What is left behind a run of characters that pass a test is the text from the first that does
not. -/
theorem dropWhile_append_of_stop : (text ++ rest).dropWhile test = rest := by
  rw [List.dropWhile_append_of_pos run]
  cases rest with
  | nil => rfl
  | cons c rest => exact List.dropWhile_cons_of_neg (by simp [stop c rfl])

end Runs

/-- Whether a number that stands before a text has ended there. -/
def EndsNumber : List Char → Prop := StartsWith fun c => isDecimalDigit c = false ∧ c ≠ '.'

namespace WrittenNumber

/-- A number begins with a digit. -/
theorem exists_text_eq_cons (number : WrittenNumber) :
    ∃ c rest, number.text = c :: rest ∧ isDecimalDigit c = true := by
  obtain ⟨c, whole, same⟩ := List.exists_cons_of_ne_nil number.whole_ne_nil
  rw [text, same, List.cons_append]
  exact ⟨c, _, rfl, number.whole_digits c (same ▸ List.mem_cons_self)⟩

/-- A number is read as far as it is written. -/
theorem splitNumber?_append (number : WrittenNumber) {rest : List Char} (ends : EndsNumber rest) :
    splitNumber? (number.text ++ rest) = some (number.text, rest) := by
  have nonempty : number.whole.isEmpty = false := List.isEmpty_eq_false_iff.mpr number.whole_ne_nil
  have stop : StartsWith (isDecimalDigit · = false) rest := fun c head => (ends c head).1
  rw [text]
  split_ifs with without
  · rw [List.append_nil, splitNumber?, takeWhile_append_of_stop number.whole_digits stop,
      dropWhile_append_of_stop number.whole_digits stop]
    simp only [nonempty, Bool.false_eq_true, if_false]
    cases rest with
    | nil => rfl
    | cons c after => simp [(ends c rfl).2]
  · have point : StartsWith (isDecimalDigit · = false) ('.' :: (number.fraction ++ rest)) := by
      intro c head
      cases head
      decide
    have present : number.fraction.isEmpty = false := List.isEmpty_eq_false_iff.mpr without
    rw [List.append_assoc, List.cons_append, splitNumber?,
      takeWhile_append_of_stop number.whole_digits point,
      dropWhile_append_of_stop number.whole_digits point]
    simp only [nonempty, Bool.false_eq_true, if_false,
      takeWhile_append_of_stop number.fraction_digits stop,
      dropWhile_append_of_stop number.fraction_digits stop, present]

/-- What is read as a number is one that is written there. -/
theorem exists_of_splitNumber? {text digits rest : List Char}
    (split : splitNumber? text = some (digits, rest)) :
    ∃ number : WrittenNumber, number.text = digits ∧ text = number.text ++ rest := by
  have run (text : List Char) : ∀ c ∈ text.takeWhile isDecimalDigit, isDecimalDigit c = true :=
    List.all_eq_true.mp List.all_takeWhile
  have parts (text : List Char) :
      text = text.takeWhile isDecimalDigit ++ text.dropWhile isDecimalDigit :=
    List.takeWhile_append_dropWhile.symm
  rw [splitNumber?, Option.ite_none_left_eq_some, List.isEmpty_iff] at split
  obtain ⟨nonempty, split⟩ := split
  have plain : ∃ number : WrittenNumber, number.text = text.takeWhile isDecimalDigit ∧
      text = number.text ++ text.dropWhile isDecimalDigit := by
    refine ⟨⟨text.takeWhile isDecimalDigit, [], nonempty, run text, by simp⟩, ?_, ?_⟩
    · exact List.append_nil _
    · exact (parts text).trans (congrArg (· ++ _) (List.append_nil _).symm)
  split at split
  · rename_i after tail
    dsimp only at split
    split_ifs at split with none_after
    · cases split
      exact plain
    · cases split
      rw [List.isEmpty_iff] at none_after
      let number : WrittenNumber :=
        ⟨_, after.takeWhile isDecimalDigit, nonempty, run text, run after⟩
      have written : number.text =
          text.takeWhile isDecimalDigit ++ '.' :: after.takeWhile isDecimalDigit :=
        congrArg (_ ++ ·) (if_neg none_after)
      refine ⟨number, written, ?_⟩
      rw [written, List.append_assoc, List.cons_append, ← parts after, ← tail]
      exact parts text
  · cases split
    exact plain

end WrittenNumber

namespace Gap

variable {sign : Char}

/-- A gap consists of white space and its sign. -/
theorem mem_text {gap : Gap sign} {c : Char} (member : c ∈ gap.text) :
    isBlank c = true ∨ c = sign := by
  rw [text, List.mem_append, List.mem_append] at member
  rcases member with before | signed | after
  · exact .inl (gap.before_blank c before)
  · split_ifs at signed
    · exact .inr (List.mem_singleton.mp signed)
    · exact absurd signed List.not_mem_nil
  · exact .inl (gap.after_blank c after)

/-- A gap is passed over, as long as it ends before something else. -/
theorem skipAround_append (gap : Gap sign) {rest : List Char} (visible : isBlank sign = false)
    (ends : StartsWith (fun c => isBlank c = false ∧ c ≠ sign) rest) :
    skipAround sign (gap.text ++ rest) = rest := by
  have stop : StartsWith (isBlank · = false) rest := fun c head => (ends c head).1
  have after : skipBlanks (gap.after ++ rest) = rest :=
    dropWhile_append_of_stop gap.after_blank stop
  rw [skipAround, text, List.append_assoc, skipBlanks,
    List.dropWhile_append_of_pos gap.before_blank]
  cases gap.signed with
  | true =>
    simp [visible, after]
  | false =>
    simp only [Bool.false_eq_true, if_false, List.nil_append]
    rw [skipBlanks] at after
    rw [after]
    cases rest with
    | nil => rfl
    | cons c others => exact if_neg (ends c rfl).2

/-- What is passed over is a gap. -/
theorem exists_of_skipAround (sign : Char) (text : List Char) :
    ∃ gap : Gap sign, text = gap.text ++ skipAround sign text := by
  have run (text : List Char) : ∀ c ∈ text.takeWhile isBlank, isBlank c = true :=
    List.all_eq_true.mp List.all_takeWhile
  have parts (text : List Char) : text = text.takeWhile isBlank ++ skipBlanks text :=
    List.takeWhile_append_dropWhile.symm
  let unsigned : Gap sign := ⟨text.takeWhile isBlank, false, [], run text, by simp⟩
  have unsigned_text : unsigned.text = text.takeWhile isBlank := List.append_nil _
  have parts_text := parts text
  rw [skipAround]
  split
  · rename_i c rest tail
    rw [tail] at parts_text
    split_ifs with signed
    · subst signed
      refine ⟨⟨text.takeWhile isBlank, true, rest.takeWhile isBlank, run text, run rest⟩, ?_⟩
      calc text
        _ = text.takeWhile isBlank ++ c :: rest := parts_text
        _ = text.takeWhile isBlank ++ c :: (rest.takeWhile isBlank ++ skipBlanks rest) :=
          congrArg (_ ++ c :: ·) (parts rest)
        _ = _ := by simp [Gap.text]
    · exact ⟨unsigned, unsigned_text ▸ parts_text⟩
  · rename_i tail
    rw [tail] at parts_text
    exact ⟨unsigned, unsigned_text ▸ parts_text⟩

end Gap

/-- Whether the letters of a hemisphere are told apart from what stands around them. -/
def AreApart (isLetter : Char → Bool) : Prop :=
  ∀ c, isLetter c = true → (isDecimalDigit c = false ∧ c ≠ '.') ∧ isBlank c = false ∧ c ≠ '°'

/-- The letters of a latitude are told apart from numbers and white space. -/
theorem areApart_latitude : AreApart isLatitudeLetter := by
  intro c letter
  simp only [isLatitudeLetter, decide_eq_true_eq, List.mem_cons, List.not_mem_nil, or_false]
    at letter
  rcases letter with rfl | rfl | rfl | rfl | rfl <;> decide

/-- The letters of a longitude are told apart from numbers and white space. -/
theorem areApart_longitude : AreApart isLongitudeLetter := by
  intro c letter
  simp only [isLongitudeLetter, decide_eq_true_eq, List.mem_cons, List.not_mem_nil, or_false]
    at letter
  rcases letter with rfl | rfl | rfl | rfl <;> decide

namespace WrittenCoordinate

variable {isLetter : Char → Bool}

/-- A coordinate is read as far as it is written. -/
theorem splitCoordinate?_append (apart : AreApart isLetter)
    (coordinate : WrittenCoordinate isLetter) (rest : List Char) :
    splitCoordinate? isLetter (coordinate.text ++ rest) =
      some (coordinate.number.text, coordinate.letter, rest) := by
  obtain ⟨ends, stops⟩ := apart coordinate.letter coordinate.isLetter_letter
  have number_ends : EndsNumber (coordinate.gap.text ++ coordinate.letter :: rest) := by
    refine startsWith_append (fun c member => ?_) fun c head => Option.some.inj head ▸ ends
    rcases Gap.mem_text member with blank | rfl
    · exact not_digit_of_isBlank blank
    · decide
  have skipped : skipAround '°' (coordinate.gap.text ++ coordinate.letter :: rest) =
      coordinate.letter :: rest :=
    coordinate.gap.skipAround_append (by decide) fun c head => Option.some.inj head ▸ stops
  rw [text, List.append_assoc, List.append_assoc, List.singleton_append, splitCoordinate?,
    coordinate.number.splitNumber?_append number_ends]
  simp only [Option.bind_eq_bind, Option.bind_some, skipped, coordinate.isLetter_letter, if_true]

/-- What is read as a coordinate is one that is written there. -/
theorem exists_of_splitCoordinate? {text digits rest : List Char} {letter : Char}
    (found : splitCoordinate? isLetter text = some (digits, letter, rest)) :
    ∃ coordinate : WrittenCoordinate isLetter, coordinate.number.text = digits ∧
      coordinate.letter = letter ∧ text = coordinate.text ++ rest := by
  obtain ⟨⟨_, after⟩, number_split, further⟩ := Option.bind_eq_some_iff.mp found
  obtain ⟨number, rfl, rfl⟩ := WrittenNumber.exists_of_splitNumber? number_split
  obtain ⟨gap, gap_split⟩ := Gap.exists_of_skipAround '°' after
  dsimp only at further
  split at further
  · rename_i skipped
    obtain ⟨names, same⟩ := Option.ite_none_right_eq_some.mp further
    cases same
    refine ⟨⟨number, gap, letter, names⟩, rfl, rfl, ?_⟩
    rw [gap_split, skipped]
    simp [text]
  · cases further

end WrittenCoordinate

namespace WrittenPair

/-- A pair that a text starts with is read as it is written. -/
theorem atStart?_append (pair : WrittenPair) (rest : List Char) :
    CoordinatePair.atStart? (pair.text ++ rest) = some pair.read := by
  have skipped : skipAround ',' (pair.gap.text ++ (pair.longitude.text ++ rest)) =
      pair.longitude.text ++ rest := by
    refine pair.gap.skipAround_append (by decide) fun c head => ?_
    obtain ⟨first, others, same, digit⟩ := pair.longitude.number.exists_text_eq_cons
    rw [WrittenCoordinate.text, same] at head
    cases head
    refine ⟨Bool.eq_false_iff.mpr fun blank => ?_, ?_⟩
    · rw [(not_digit_of_isBlank blank).1] at digit
      cases digit
    · rintro rfl
      exact absurd digit (by decide)
  have matched :
      (pair.text ++ rest).take ((pair.text ++ rest).length - rest.length) = pair.text := by
    rw [List.length_append, Nat.add_sub_cancel, List.take_left]
  have first : splitCoordinate? isLatitudeLetter (pair.text ++ rest) =
      some (pair.latitude.number.text, pair.latitude.letter,
        pair.gap.text ++ (pair.longitude.text ++ rest)) := by
    rw [text, List.append_assoc, List.append_assoc]
    exact pair.latitude.splitCoordinate?_append areApart_latitude _
  rw [CoordinatePair.atStart?, first]
  simp only [Option.bind_eq_bind, Option.bind_some, skipped, matched,
    pair.longitude.splitCoordinate?_append areApart_longitude]
  rfl

/-- What is read as a pair is one that is written there. -/
theorem exists_of_atStart? {text : List Char} {pair : CoordinatePair}
    (found : CoordinatePair.atStart? text = some pair) :
    ∃ written : WrittenPair, written.read = pair ∧ written.text <+: text := by
  obtain ⟨⟨_, _, middle⟩, first, further⟩ := Option.bind_eq_some_iff.mp found
  obtain ⟨latitude, rfl, rfl, rfl⟩ := WrittenCoordinate.exists_of_splitCoordinate? first
  obtain ⟨gap, middle_split⟩ := Gap.exists_of_skipAround ',' middle
  obtain ⟨⟨_, _, rest⟩, second, -⟩ := Option.bind_eq_some_iff.mp further
  obtain ⟨longitude, rfl, rfl, skipped⟩ := WrittenCoordinate.exists_of_splitCoordinate? second
  let written : WrittenPair := ⟨latitude, gap, longitude⟩
  have whole : latitude.text ++ middle = written.text ++ rest := by
    rw [middle_split, skipped, WrittenPair.text]
    simp [written]
  rw [whole, written.atStart?_append rest] at found
  exact ⟨written, Option.some.inj found, whole ▸ List.prefix_append ..⟩

/-- A pair that stands at the start of a text is read there. -/
theorem atStart?_of_isPrefix {pair : WrittenPair} {text : List Char} (here : pair.text <+: text) :
    CoordinatePair.atStart? text = some pair.read := by
  obtain ⟨rest, rfl⟩ := here
  exact pair.atStart?_append rest

/-- A pair begins with a digit. -/
theorem exists_text_eq_cons (pair : WrittenPair) :
    ∃ c rest, pair.text = c :: rest ∧ isDecimalDigit c = true := by
  obtain ⟨c, rest, same, digit⟩ := pair.latitude.number.exists_text_eq_cons
  rw [text, WrittenCoordinate.text, same, List.cons_append, List.cons_append]
  exact ⟨c, _, rfl, digit⟩

/-- Whether a pair is written in a text, behind the given beginning. -/
def StandsBehind (pair : WrittenPair) (before text : List Char) : Prop :=
  before ++ pair.text <+: text

/-- A pair that stands in the rest of a text stands in the text, one place further on. -/
theorem StandsBehind.cons {pair : WrittenPair} {before text : List Char}
    (stands : pair.StandsBehind before text) (c : Char) :
    pair.StandsBehind (c :: before) (c :: text) :=
  List.cons_prefix_cons.mpr ⟨rfl, stands⟩

/-- A pair that a text starts with is the first of it. -/
theorem firstIn?_of_isPrefix {pair : WrittenPair} {text : List Char} (here : pair.text <+: text) :
    CoordinatePair.firstIn? text = some pair.read := by
  have start := atStart?_of_isPrefix here
  cases text with
  | nil => cases start
  | cons c rest => rw [CoordinatePair.firstIn?, start, Option.some_or]

/-- A text in which a pair is written has a first one. -/
theorem isSome_firstIn? {pair : WrittenPair} {before text : List Char}
    (stands : pair.StandsBehind before text) : (CoordinatePair.firstIn? text).isSome = true := by
  obtain ⟨rest, rfl⟩ := stands
  rw [List.append_assoc]
  induction before with
  | nil =>
    rw [List.nil_append, firstIn?_of_isPrefix (List.prefix_append ..)]
    rfl
  | cons c before ih =>
    rw [List.cons_append, CoordinatePair.firstIn?, Option.isSome_or, ih, Bool.or_true]

/-- The pair that is read from a text is the one that begins first. -/
theorem exists_of_firstIn? {text : List Char} {found : CoordinatePair}
    (first : CoordinatePair.firstIn? text = some found) :
    ∃ (pair : WrittenPair) (before : List Char), pair.read = found ∧
      pair.StandsBehind before text ∧
      ∀ (other : WrittenPair) (before' : List Char), other.StandsBehind before' text →
        before.length ≤ before'.length := by
  induction text with
  | nil => cases first
  | cons c rest ih =>
    cases start : CoordinatePair.atStart? (c :: rest) with
    | some here =>
      rw [CoordinatePair.firstIn?, start] at first
      cases first
      obtain ⟨pair, read, stands⟩ := exists_of_atStart? start
      exact ⟨pair, [], read, stands, fun _ _ _ => Nat.zero_le _⟩
    | none =>
      rw [CoordinatePair.firstIn?, start] at first
      obtain ⟨pair, before, read, stands, earliest⟩ := ih first
      refine ⟨pair, c :: before, read, stands.cons c, ?_⟩
      intro other before' stands'
      cases before' with
      | nil =>
        rw [atStart?_of_isPrefix stands'] at start
        cases start
      | cons d before' =>
        exact Nat.succ_le_succ (earliest other before' (List.cons_prefix_cons.mp stands').2)

/-- What has no digits in it is no part of a pair. -/
theorem firstIn?_append_of_no_digit {before : List Char}
    (plain : ∀ c ∈ before, isDecimalDigit c = false) (rest : List Char) :
    CoordinatePair.firstIn? (before ++ rest) = CoordinatePair.firstIn? rest := by
  induction before with
  | nil => rfl
  | cons c before ih =>
    obtain ⟨other, later⟩ := List.forall_mem_cons.mp plain
    have none_here : CoordinatePair.atStart? (c :: (before ++ rest)) = none := by
      rw [Option.eq_none_iff_forall_not_mem]
      intro pair found
      obtain ⟨written, -, here⟩ := exists_of_atStart? found
      obtain ⟨d, _, same, digit⟩ := written.exists_text_eq_cons
      rw [same, List.cons_prefix_cons] at here
      rw [here.1, other] at digit
      cases digit
    rw [List.cons_append, CoordinatePair.firstIn?, none_here, Option.none_or, ih later]

end WrittenPair

end ArgoQuery.Geography
