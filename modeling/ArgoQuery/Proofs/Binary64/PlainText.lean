import ArgoQuery.Binary64.Text
import ArgoQuery.Proofs.Binary64.RoundingIntervals
import Mathlib.Data.List.TakeWhile

/-!
# The plain form says which number it is

The text of a finite number in the plain form is its sign and a decimal that rounds to its magnitude
(`spelled_unsigned`). A decimal rounds to one magnitude only, so numbers with the same text are the
same (`eq_of_plain_eq`), and the infinities have texts of their own (`eq_of_plain_eq_of_number`).
What is written without a point rounds to no number that has a fraction, so the text of a whole
number is not the text of such a number (`decimalText_ne_plain`).
-/

namespace ArgoQuery.Binary64

/-- The decimal that a text without a sign or an exponent spells. -/
def spelled (text : List Char) : Decimal :=
  let fraction := (splitFraction (text.dropWhile Char.isDigit)).1
  ⟨valueOfDigits (text.takeWhile Char.isDigit ++ fraction), -(fraction.length : Int)⟩

/-- Whether a text consists of digits alone. -/
def AreDigits (text : List Char) : Prop := ∀ digit ∈ text, digit.isDigit = true

/-- A whole number is written in digits. -/
theorem areDigits_decimalDigits (value : Nat) : AreDigits (decimalDigits value) :=
  fun _ member => Nat.isDigit_of_mem_toDigits (by decide) (by decide) member

/-- Zeros are digits. -/
theorem areDigits_zeros (count : Nat) : AreDigits (List.replicate count '0') := by
  intro digit member
  rw [List.eq_of_mem_replicate member]
  rfl

/-- Digits after digits are digits. -/
theorem AreDigits.append {text rest : List Char} (digits : AreDigits text)
    (digits' : AreDigits rest) : AreDigits (text ++ rest) :=
  fun digit member => (List.mem_append.mp member).elim (digits digit) (digits' digit)

/-- The first of some digits are digits. -/
theorem AreDigits.take {text : List Char} (digits : AreDigits text) (count : Nat) :
    AreDigits (text.take count) :=
  fun digit member => digits digit (List.mem_of_mem_take member)

/-- The last of some digits are digits. -/
theorem AreDigits.drop {text : List Char} (digits : AreDigits text) (count : Nat) :
    AreDigits (text.drop count) :=
  fun digit member => digits digit (List.mem_of_mem_drop member)

/-- The digits of a whole number have its value. -/
@[simp]
theorem valueOfDigits_decimalDigits (value : Nat) : valueOfDigits (decimalDigits value) = value :=
  Nat.ofDigitChars_ten_toDigits

/-- Zeros behind a run of digits multiply its value. -/
theorem valueOfDigits_append_zeros (text : List Char) (count : Nat) :
    valueOfDigits (text ++ List.replicate count '0') = valueOfDigits text * 10 ^ count :=
  calc valueOfDigits (text ++ List.replicate count '0')
      = Nat.ofDigitChars 10 (List.replicate count '0') (valueOfDigits text) :=
        Nat.ofDigitChars_append 0
    _ = 10 ^ count * valueOfDigits text := Nat.ofDigitChars_replicate_zero
    _ = valueOfDigits text * 10 ^ count := Nat.mul_comm ..

/-- Zeros before a run of digits say nothing. -/
theorem valueOfDigits_zeros_append (text : List Char) (count : Nat) :
    valueOfDigits (List.replicate count '0' ++ text) = valueOfDigits text := by
  have zero : Nat.ofDigitChars 10 (List.replicate count '0') 0 = 0 := by
    rw [Nat.ofDigitChars_replicate_zero, Nat.mul_zero]
  calc valueOfDigits (List.replicate count '0' ++ text)
      = Nat.ofDigitChars 10 text (Nat.ofDigitChars 10 (List.replicate count '0') 0) :=
        Nat.ofDigitChars_append 0
    _ = valueOfDigits text := by
        rw [zero]
        rfl

/-- Digits alone spell their value. -/
theorem spelled_of_digits {text : List Char} (digits : AreDigits text) :
    spelled text = ⟨valueOfDigits text, 0⟩ := by
  rw [spelled, List.takeWhile_eq_self_iff.mpr digits, List.dropWhile_eq_nil_iff.mpr digits]
  simp [splitFraction]

/-- Digits on both sides of a point spell the value of all of them, scaled down by those behind the
point. -/
theorem spelled_of_point {whole fraction : List Char} (digits : AreDigits whole)
    (digits' : AreDigits fraction) :
    spelled (whole ++ '.' :: fraction) =
      ⟨valueOfDigits (whole ++ fraction), -(fraction.length : Int)⟩ := by
  have stop : ¬ Char.isDigit '.' = true := by decide
  rw [spelled, List.takeWhile_append_of_pos digits, List.dropWhile_append_of_pos digits,
    List.takeWhile_cons_of_neg stop, List.dropWhile_cons_of_neg stop, List.append_nil,
    splitFraction, List.takeWhile_eq_self_iff.mpr digits']

/-- Zeros take the place of an exponent that is not negative. -/
theorem spelled_positionally_of_nonneg {text : List Char} (digits : AreDigits text) {exponent : Int}
    (whole : 0 ≤ exponent) :
    spelled (plainForm.positionally text exponent) =
      ⟨valueOfDigits text * 10 ^ exponent.toNat, 0⟩ := by
  rw [Form.positionally, if_pos whole, plainForm, List.append_nil,
    spelled_of_digits (digits.append (areDigits_zeros _)), valueOfDigits_append_zeros]

/-- A point takes the place of a negative exponent, after zeros if there are more places than
digits. -/
theorem spelled_positionally_of_neg {text : List Char} (digits : AreDigits text) {exponent : Int}
    (fraction : exponent < 0) :
    spelled (plainForm.positionally text exponent) = ⟨valueOfDigits text, exponent⟩ := by
  obtain ⟨places, rfl⟩ := Int.exists_eq_neg_ofNat fraction.le
  rw [Form.positionally, if_neg (by omega), Int.neg_neg, Int.toNat_natCast]
  dsimp only
  split_ifs with short
  · rw [spelled_of_point (digits.take _) (digits.drop _), List.take_append_drop, List.length_drop,
      Nat.sub_sub_self short.le]
  · have padded := (areDigits_zeros (places - text.length)).append digits
    have length : (List.replicate (places - text.length) '0' ++ text).length = places := by
      rw [List.length_append, List.length_replicate, Nat.sub_add_cancel (Nat.not_lt.mp short)]
    calc spelled ('0' :: '.' :: List.replicate (places - text.length) '0' ++ text)
        = ⟨valueOfDigits
              (List.replicate 1 '0' ++ (List.replicate (places - text.length) '0' ++ text)),
            -((List.replicate (places - text.length) '0' ++ text).length : Int)⟩ :=
          spelled_of_point (areDigits_zeros 1) padded
      _ = ⟨valueOfDigits text, -(places : Int)⟩ := by
          rw [length, valueOfDigits_zeros_append, valueOfDigits_zeros_append]

/-- The plain form of zero spells zero. -/
theorem spelled_unsigned_zero : spelled (plainForm.unsigned 0) = ⟨0, 0⟩ := rfl

/-- The plain form is always positional. -/
theorem unsigned_eq_positionally {magnitude : Nat} (positive : magnitude ≠ 0) :
    plainForm.unsigned magnitude =
      plainForm.positionally (decimalDigits (shortest .upward magnitude).digits)
        (shortest .upward magnitude).exponent := by
  rw [Form.unsigned, if_neg positive]
  rfl

/-- The text of a magnitude spells a decimal that rounds to it. -/
theorem spelled_unsigned (magnitude : Nat) :
    (spelled (plainForm.unsigned magnitude)).RoundsTo magnitude := by
  by_cases zero : magnitude = 0
  · rw [zero, spelled_unsigned_zero]
    exact Decimal.RoundsTo.zero
  · have digits := areDigits_decimalDigits (shortest .upward magnitude).digits
    have value := valueOfDigits_decimalDigits (shortest .upward magnitude).digits
    have rounds := shortest_roundsTo .upward magnitude
    rw [unsigned_eq_positionally zero]
    rcases lt_or_ge (shortest .upward magnitude).exponent 0 with fraction | whole
    · rw [spelled_positionally_of_neg digits fraction, value]
      exact rounds
    · rw [spelled_positionally_of_nonneg digits whole, value]
      exact rounds.expand whole

/-- Texts of different magnitudes differ. -/
theorem unsigned_injective : Function.Injective plainForm.unsigned := by
  intro magnitude other same
  have rounds := spelled_unsigned magnitude
  rw [same] at rounds
  exact rounds.unique (spelled_unsigned other)

/-- A run of digits is the text of a magnitude without a fraction only. -/
theorem whole_of_unsigned_eq {magnitude value : Nat}
    (same : plainForm.unsigned magnitude = decimalDigits value) :
    unitsOfMagnitude magnitude % unitsPerOne = 0 := by
  have rounds := spelled_unsigned magnitude
  rw [same, spelled_of_digits (areDigits_decimalDigits value)] at rounds
  exact rounds.whole

/-- A text behind a minus sign, or without one. -/
def signed (negative : Bool) (text : List Char) : List Char :=
  if negative then '-' :: text else text

/-- The sign can be told from a text that has none of its own. -/
theorem signed_injective {negative negative' : Bool} {text text' : List Char} (clean : '-' ∉ text)
    (clean' : '-' ∉ text') (same : signed negative text = signed negative' text') :
    negative = negative' ∧ text = text' := by
  cases negative <;> cases negative' <;> simp only [signed, if_true, Bool.false_eq_true, if_false]
    at same
  case false.false => exact ⟨rfl, same⟩
  case false.true => exact absurd (same ▸ List.mem_cons_self) clean
  case true.false => exact absurd (same ▸ List.mem_cons_self) clean'
  case true.true => exact ⟨rfl, List.cons_inj_right _ |>.mp same⟩

/-- No digit is a minus. -/
theorem AreDigits.minus_not_mem {text : List Char} (digits : AreDigits text) : '-' ∉ text := by
  intro member
  have digit : Char.isDigit '-' = true := digits _ member
  exact absurd digit (by decide)

/-- Digits that are written positionally bring no minus. -/
theorem minus_not_mem_positionally {text : List Char} (digits : AreDigits text) (exponent : Int) :
    '-' ∉ plainForm.positionally text exponent := by
  rw [Form.positionally]
  dsimp only
  split_ifs with whole short
  · rw [plainForm, List.append_nil]
    exact (digits.append (areDigits_zeros _)).minus_not_mem
  · simp [(digits.take _).minus_not_mem, (digits.drop _).minus_not_mem]
  · simp [digits.minus_not_mem, (areDigits_zeros _).minus_not_mem]

/-- The plain form of a magnitude has no minus. -/
theorem minus_not_mem_unsigned (magnitude : Nat) : '-' ∉ plainForm.unsigned magnitude := by
  by_cases zero : magnitude = 0
  · rw [zero]
    decide
  · rw [unsigned_eq_positionally zero]
    exact minus_not_mem_positionally (areDigits_decimalDigits _) _

/-- The text of a number without its sign: its digits, or the name of infinity. -/
def unsignedText (x : Binary64) : List Char :=
  if x.isInfinite then "inf".toList else plainForm.unsigned x.magnitude

/-- The plain text of a number is its sign before its text without one. -/
theorem plain_eq_signed_unsignedText {x : Binary64} (number : x.isNaN = false) :
    x.plain = String.ofList (signed x.isNegative x.unsignedText) := by
  rw [plain, withSign, number]
  rfl

/-- The plain text of a finite number is its sign before the plain form of its magnitude. -/
theorem plain_eq_signed {x : Binary64} (finite : x.isFinite = true) :
    x.plain = String.ofList (signed x.isNegative (plainForm.unsigned x.magnitude)) := by
  rw [plain_eq_signed_unsignedText (isNaN_eq_false finite), unsignedText,
    isInfinite_eq_false finite]
  rfl

/-- The name of infinity has no digits, and zero has one. -/
theorem unsigned_ne_inf (magnitude : Nat) : plainForm.unsigned magnitude ≠ "inf".toList := by
  intro same
  have rounds := spelled_unsigned magnitude
  rw [same] at rounds
  have zero : magnitude = 0 := rounds.unique Decimal.RoundsTo.zero
  rw [zero] at same
  exact absurd same (by decide)

/-- The text of a number without its sign has no minus. -/
theorem minus_not_mem_unsignedText (x : Binary64) : '-' ∉ x.unsignedText := by
  rw [unsignedText]
  split_ifs
  · decide
  · exact minus_not_mem_unsigned _

/-- Texts without a sign tell magnitudes apart, that of infinity included. -/
theorem magnitude_eq_of_unsignedText_eq {x y : Binary64} (same : x.unsignedText = y.unsignedText) :
    x.magnitude = y.magnitude := by
  rw [unsignedText, unsignedText] at same
  split_ifs at same with infinite infinite' infinite'
  · exact (of_decide_eq_true infinite).trans (of_decide_eq_true infinite').symm
  · exact absurd same.symm (unsigned_ne_inf _)
  · exact absurd same (unsigned_ne_inf _)
  · exact unsigned_injective same

/-- The text of an integer is its sign before the digits of its absolute value. -/
theorem decimalText_eq_signed (value : Int) :
    decimalText value =
      String.ofList (signed (decide (value < 0)) (decimalDigits value.natAbs)) := by
  rw [decimalText, signedDigits, signed]
  simp only [decide_eq_true_eq]

/-- Numbers with the same text are the same number, be they finite or not. -/
theorem eq_of_plain_eq_of_number {x y : Binary64} (number : x.isNaN = false)
    (number' : y.isNaN = false) (same : x.plain = y.plain) : x = y := by
  rw [plain_eq_signed_unsignedText number, plain_eq_signed_unsignedText number'] at same
  obtain ⟨sign, unsigned⟩ := signed_injective x.minus_not_mem_unsignedText
    y.minus_not_mem_unsignedText (String.ofList_injective same)
  exact eq_of_sign_of_magnitude sign (magnitude_eq_of_unsignedText_eq unsigned)

/-- Finite numbers of one plain text are the same. The text has a minus exactly if the number is
negative, and what follows it spells the magnitude. -/
theorem eq_of_plain_eq {x y : Binary64} (finite : x.isFinite = true) (finite' : y.isFinite = true)
    (same : x.plain = y.plain) : x = y :=
  eq_of_plain_eq_of_number (isNaN_eq_false finite) (isNaN_eq_false finite') same

/-- Whole numbers with the same text are the same number. -/
theorem decimalText_injective : Function.Injective decimalText := by
  intro value other same
  rw [decimalText_eq_signed, decimalText_eq_signed] at same
  obtain ⟨sign, digits⟩ := signed_injective (areDigits_decimalDigits _).minus_not_mem
    (areDigits_decimalDigits _).minus_not_mem (String.ofList_injective same)
  have size : value.natAbs = other.natAbs := by
    rw [← valueOfDigits_decimalDigits value.natAbs, digits, valueOfDigits_decimalDigits]
  rw [decide_eq_decide] at sign
  omega

/-- The text of a number with a fraction is no whole number in decimal. -/
theorem decimalText_ne_plain {x : Binary64} (finite : x.isFinite = true)
    (fraction : x.isWhole = false) (value : Int) : decimalText value ≠ x.plain := by
  intro same
  rw [decimalText_eq_signed, plain_eq_signed finite] at same
  obtain ⟨-, digits⟩ := signed_injective (areDigits_decimalDigits _).minus_not_mem
    (minus_not_mem_unsigned _) (String.ofList_injective same)
  have whole : x.isWhole = true := by
    rw [isWhole, finite, Bool.true_and, decide_eq_true_eq]
    exact whole_of_unsigned_eq digits.symm
  rw [whole] at fraction
  cases fraction

end ArgoQuery.Binary64
