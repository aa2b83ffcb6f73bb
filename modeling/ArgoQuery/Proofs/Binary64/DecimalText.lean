import ArgoQuery.Proofs.Binary64.PlainText
import ArgoQuery.Proofs.Binary64.RoundingOrder

/-!
# Decimals are read as the nearest number

A decimal far outside the range of numbers is not divided out: its size alone settles it. That
agrees with rounding, since rounding counts powers of two and three powers of ten are less than ten
powers of two (`ten_pow_le_two_pow`). So a text of digits with or without a point is read as the
number nearest to what it says: `readDecimal?_of_digits`, `readDecimal?_of_point`. Digits of other
scripts are not read at all: `isAsciiText_of_readDecimal?`.
-/

namespace ArgoQuery.Binary64

/-- Where ten powers of two go into three powers of ten. -/
theorem ten_pow_le_two_pow {tens twos : Nat} (enough : 10 * tens ≤ 3 * twos) :
    10 ^ tens ≤ 2 ^ twos := by
  have cubes : (10 ^ tens) ^ 3 ≤ (2 ^ twos) ^ 3 := by
    calc (10 ^ tens) ^ 3
      _ = (10 ^ 3) ^ tens := by rw [← Nat.pow_mul, ← Nat.pow_mul, Nat.mul_comm]
      _ ≤ (2 ^ 10) ^ tens := Nat.pow_le_pow_left (by decide) tens
      _ = 2 ^ (10 * tens) := (Nat.pow_mul ..).symm
      _ ≤ 2 ^ (3 * twos) := Nat.pow_le_pow_right (by decide) enough
      _ = (2 ^ twos) ^ 3 := by rw [← Nat.pow_mul, Nat.mul_comm]
  exact le_of_pow_le_pow_left₀ (by decide) (Nat.zero_le _) cubes

/-- Three bits are fewer than a decimal digit. -/
theorem two_pow_le_ten_pow {tens twos : Nat} (enough : twos ≤ 3 * tens) :
    2 ^ twos ≤ 10 ^ tens := by
  calc 2 ^ twos
    _ ≤ 2 ^ (3 * tens) := Nat.pow_le_pow_right (by decide) enough
    _ = (2 ^ 3) ^ tens := Nat.pow_mul ..
    _ ≤ 10 ^ tens := Nat.pow_le_pow_left (by decide) tens

section Sizes

variable {digits places : Nat}

/-- The magnitude nearest to nothing is nothing, whatever it is divided by. -/
@[simp]
theorem nearestMagnitude_zero (denominator : Nat) : nearestMagnitude 0 denominator = 0 := by
  simp [nearestMagnitude, roundRatio]

/-- What exceeds `10 ^ 310` is infinite. -/
theorem nearestMagnitude_of_large (nonzero : digits ≠ 0)
    (large : 310 + places < digits.log2 * 3 / 10) :
    nearestMagnitude digits (10 ^ places) = infiniteMagnitude := by
  have size : 10 ^ (310 + places) ≤ digits :=
    (ten_pow_le_two_pow (by omega)).trans (Nat.log2_self_le nonzero)
  have limit : nearestMagnitude (10 ^ 310) 1 = infiniteMagnitude := by decide +kernel
  refine Nat.le_antisymm (nearestMagnitude_le ..) (limit.symm.trans_le ?_)
  refine nearestMagnitude_mono Nat.one_pos (Nat.pow_pos (by decide)) ?_
  rwa [← Nat.pow_add, Nat.mul_one]

/-- What is below `10 ^ -330` is zero. -/
theorem nearestMagnitude_of_small (small : digits.log2 / 3 + 1 + 330 < places) :
    nearestMagnitude digits (10 ^ places) = 0 := by
  have bits : digits.log2 + 1 ≤ 3 * (digits.log2 / 3 + 1) := by omega
  have size : digits * 10 ^ 330 ≤ 10 ^ places := by
    calc digits * 10 ^ 330
      _ ≤ 2 ^ (digits.log2 + 1) * 10 ^ 330 := Nat.mul_le_mul_right _ Nat.lt_log2_self.le
      _ ≤ 10 ^ (digits.log2 / 3 + 1) * 10 ^ 330 := Nat.mul_le_mul_right _ (two_pow_le_ten_pow bits)
      _ = 10 ^ (digits.log2 / 3 + 1 + 330) := (pow_add ..).symm
      _ ≤ 10 ^ places := Nat.pow_le_pow_right (by decide) small.le
  have limit : nearestMagnitude 1 (10 ^ 330) = 0 := by decide +kernel
  refine Nat.le_zero.mp ((nearestMagnitude_mono ?_ ?_ ?_).trans_eq limit)
  · exact pow_pos (by decide) places
  · exact pow_pos (by decide) 330
  · rwa [Nat.one_mul]

/-- A decimal with places after the point is rounded to the nearest number. -/
theorem ofDecimal_eq_ofRatio (negative : Bool) (digits places : Nat) :
    ofDecimal negative digits (-(places : Int)) = ofRatio negative digits (10 ^ places) := by
  rw [ofDecimal]
  split_ifs with zero large small whole
  · rw [zero, ofRatio, nearestMagnitude_zero]
  · rw [ofRatio, nearestMagnitude_of_large zero (by omega)]
  · rw [ofRatio, nearestMagnitude_of_small (by omega)]
  · have none_after : places = 0 := by omega
    rw [none_after, Int.natCast_zero, Int.neg_zero, Int.toNat_zero, Nat.pow_zero]
    exact congrArg (ofRatio negative · 1) (Nat.mul_one digits)
  · rw [Int.neg_neg, Int.toNat_natCast]
    rfl

end Sizes

/-- The number nearest to what digits before and after a point say. -/
def nearestDecimal (whole fraction : List Char) : Binary64 :=
  ofRatio false (valueOfDigits (whole ++ fraction)) (10 ^ fraction.length)

section Read

variable {whole : List Char} (nonempty : whole ≠ []) (digits : AreDigits whole)

include nonempty digits

/-- Digits alone are read as the whole number they spell. -/
theorem readDecimal?_of_digits : readDecimal? false whole = some (nearestDecimal whole []) := by
  have present : whole.isEmpty = false := List.isEmpty_eq_false_iff.mpr nonempty
  rw [readDecimal?, List.takeWhile_eq_self_iff.mpr digits, List.dropWhile_eq_nil_iff.mpr digits]
  simp only [splitFraction, present, Bool.false_and, Bool.false_eq_true, if_false, readExponent?,
    Option.map_some]
  exact congrArg some (ofDecimal_eq_ofRatio false _ 0)

/-- Digits on both sides of a point are read as what they spell together. -/
theorem readDecimal?_of_point {fraction : List Char} (digits' : AreDigits fraction) :
    readDecimal? false (whole ++ '.' :: fraction) = some (nearestDecimal whole fraction) := by
  have present : whole.isEmpty = false := List.isEmpty_eq_false_iff.mpr nonempty
  have stop : ¬ Char.isDigit '.' = true := by decide
  rw [readDecimal?, List.takeWhile_append_of_pos digits, List.dropWhile_append_of_pos digits,
    List.takeWhile_cons_of_neg stop, List.dropWhile_cons_of_neg stop, List.append_nil,
    splitFraction, List.takeWhile_eq_self_iff.mpr digits', List.dropWhile_eq_nil_iff.mpr digits']
  simp only [present, Bool.false_and, Bool.false_eq_true, if_false, readExponent?,
    Option.map_some, Int.zero_sub]
  exact congrArg some (ofDecimal_eq_ofRatio false _ _)

end Read

/-- A digit is an ASCII character. -/
theorem toNat_lt_of_isDigit {c : Char} (digit : c.isDigit = true) : c.toNat < 128 := by
  simp only [Char.isDigit, Bool.and_eq_true, decide_eq_true_eq] at digit
  have greatest : c.toNat ≤ '9'.toNat := UInt32.le_iff_toNat_le.mp digit.2
  have nine : '9'.toNat = 57 := rfl
  omega

/-- Whether every character of a text is an ASCII one. -/
def IsAsciiText (text : List Char) : Prop := ∀ c ∈ text, c.toNat < 128

/-- Digits are ASCII characters. -/
theorem AreDigits.isAsciiText {text : List Char} (digits : AreDigits text) : IsAsciiText text :=
  fun c member => toNat_lt_of_isDigit (digits c member)

/-- ASCII texts make an ASCII text. -/
theorem IsAsciiText.append {text rest : List Char} (ascii : IsAsciiText text)
    (ascii' : IsAsciiText rest) : IsAsciiText (text ++ rest) :=
  fun c member => (List.mem_append.mp member).elim (ascii c) (ascii' c)

/-- An ASCII character before an ASCII text makes another. -/
theorem IsAsciiText.cons {c : Char} {rest : List Char} (ascii : c.toNat < 128)
    (ascii' : IsAsciiText rest) : IsAsciiText (c :: rest) :=
  List.forall_mem_cons.mpr ⟨ascii, ascii'⟩

/-- A text is ASCII if what follows its sign is, as a sign is ASCII. -/
theorem isAsciiText_of_splitSign {text : List Char} (ascii : IsAsciiText (splitSign text).2) :
    IsAsciiText text := by
  rw [splitSign.eq_def] at ascii
  split at ascii
  · exact ascii.cons (by decide)
  · exact ascii.cons (by decide)
  · exact ascii

/-- Only ASCII texts are read as exponents. -/
theorem isAsciiText_of_readExponent? {text : List Char} {exponent : Int}
    (read : readExponent? text = some exponent) : IsAsciiText text := by
  cases text with
  | nil => exact fun _ member => absurd member List.not_mem_nil
  | cons mark rest =>
    simp only [readExponent?, Option.ite_none_right_eq_some, Option.ite_none_left_eq_some] at read
    obtain ⟨marked, digits, -⟩ := read
    have run : AreDigits (splitSign rest).2 := by
      simp only [Bool.or_eq_true, Bool.not_eq_true', not_or, Bool.not_eq_false] at digits
      exact List.all_eq_true.mp digits.2
    refine (isAsciiText_of_splitSign run.isAsciiText).cons ?_
    rcases marked with rfl | rfl <;> decide

/-- A text is ASCII if what follows its fraction is, as the point and its digits are ASCII. -/
theorem isAsciiText_of_splitFraction {text : List Char}
    (ascii : IsAsciiText (splitFraction text).2) : IsAsciiText text := by
  rw [splitFraction.eq_def] at ascii
  split at ascii
  · rename_i rest
    have run : AreDigits (rest.takeWhile Char.isDigit) := List.all_eq_true.mp List.all_takeWhile
    rw [← List.takeWhile_append_dropWhile (p := Char.isDigit) (l := rest)]
    exact (run.isAsciiText.append ascii).cons (by decide)
  · exact ascii

/-- Only ASCII texts are decimals. -/
theorem isAsciiText_of_readDecimal? {negative : Bool} {text : List Char} {number : Binary64}
    (read : readDecimal? negative text = some number) : IsAsciiText text := by
  simp only [readDecimal?, Option.ite_none_left_eq_some, Option.map_eq_some_iff] at read
  obtain ⟨-, exponent, read, -⟩ := read
  have run : AreDigits (text.takeWhile Char.isDigit) := List.all_eq_true.mp List.all_takeWhile
  have rest := isAsciiText_of_splitFraction (isAsciiText_of_readExponent? read)
  rw [← List.takeWhile_append_dropWhile (p := Char.isDigit) (l := text)]
  exact run.isAsciiText.append rest

end ArgoQuery.Binary64
