import ArgoQuery.Json.Printer
import ArgoQuery.Json.Reader
import ArgoQuery.Proofs.Binary64.PlainText

/-!
# Numbers are read up to where they end

The reader takes as much of a text for a number as it can. What follows a number in a written value
goes on with no number, and then the reader stops where the number ends: `split?_append`. So it is
enough to know how the text of a number is read on its own.

The text of a whole number stands for that number (`split?_signedDigits`, `toJson?_ofInt`). That of
a fractional number need not, since the reader may miss the nearest number: whether it does is a
property of the number (`Binary64.ReadsBack`).
-/

namespace ArgoQuery

namespace NumberLiteral

/-- Whether a text goes on with nothing that a number could go on with. -/
def EndsNumber (text : List Char) : Prop :=
  ∀ c ∈ text.head?, c.isDigit = false ∧ c ≠ '.' ∧ c ≠ 'e' ∧ c ≠ 'E'

/-- Texts that start differently are different. -/
theorem cons_ne_of_ne {c d : Char} (apart : c ≠ d) {text : List Char} (later : List Char) :
    c :: text ≠ d :: later := by
  rintro same
  exact apart (List.cons.inj same).1

section Runs

variable {text rest : List Char}

/-- The digits at the start of a text are not continued by what ends a number. -/
theorem takeWhile_append_of_ends (ends : EndsNumber rest) :
    (text ++ rest).takeWhile Char.isDigit = text.takeWhile Char.isDigit := by
  have stop : rest.takeWhile Char.isDigit = [] := by
    cases rest with
    | nil => rfl
    | cons c later => exact List.takeWhile_cons_of_neg (by simp [(ends c rfl).1])
  induction text with
  | nil => exact stop
  | cons c text ih =>
    rw [List.cons_append, List.takeWhile_cons, List.takeWhile_cons, ih]

/-- What follows the digits at the start of a text stays in front of what ends a number. -/
theorem dropWhile_append_of_ends (ends : EndsNumber rest) :
    (text ++ rest).dropWhile Char.isDigit = text.dropWhile Char.isDigit ++ rest := by
  have stop : rest.dropWhile Char.isDigit = rest := by
    cases rest with
    | nil => rfl
    | cons c later => exact List.dropWhile_cons_of_neg (by simp [(ends c rfl).1])
  induction text with
  | nil => exact stop
  | cons c text ih =>
    rw [List.cons_append, List.dropWhile_cons, List.dropWhile_cons, ih]
    split <;> rfl

end Runs

section Parts

variable {text rest after : List Char}

/-- A whole part that does not begin with a zero is the run of all digits, and there is none without
a digit. -/
theorem splitWhole?_of_nonzero (first : ∀ rest, text ≠ '0' :: rest) :
    splitWhole? text =
      if (text.takeWhile Char.isDigit).isEmpty then none
      else some (text.takeWhile Char.isDigit, text.dropWhile Char.isDigit) := by
  rw [splitWhole?.eq_def]
  split
  · exact absurd rfl (first _)
  · rfl

/-- The whole part of a number is split off alike in front of what ends a number. -/
theorem splitWhole?_append (ends : EndsNumber rest) {digits : List Char}
    (split : splitWhole? text = some (digits, after)) :
    splitWhole? (text ++ rest) = some (digits, after ++ rest) := by
  cases text with
  | nil => cases split
  | cons c text =>
    by_cases zero : c = '0'
    · subst zero
      cases split
      rfl
    · rw [splitWhole?_of_nonzero (cons_ne_of_ne zero)] at split
      rw [List.cons_append, splitWhole?_of_nonzero (cons_ne_of_ne zero), ← List.cons_append,
        takeWhile_append_of_ends ends, dropWhile_append_of_ends ends]
      split_ifs at split ⊢
      cases split
      rfl

/-- Without a point there is no fraction. -/
theorem splitFraction?_of_no_point (first : ∀ rest, text ≠ '.' :: rest) :
    splitFraction? text = some ([], text) := by
  rw [splitFraction?.eq_def]
  split
  · exact absurd rfl (first _)
  · rfl

/-- The fraction of a number is split off alike in front of what ends a number. -/
theorem splitFraction?_append (ends : EndsNumber rest) {digits : List Char}
    (split : splitFraction? text = some (digits, after)) :
    splitFraction? (text ++ rest) = some (digits, after ++ rest) := by
  cases text with
  | nil =>
    cases split
    refine splitFraction?_of_no_point ?_
    rintro later rfl
    exact (ends '.' rfl).2.1 rfl
  | cons c text =>
    by_cases point : c = '.'
    · subst point
      rw [splitFraction?] at split
      rw [List.cons_append, splitFraction?, takeWhile_append_of_ends ends,
        dropWhile_append_of_ends ends]
      split_ifs at split ⊢
      cases split
      rfl
    · rw [splitFraction?_of_no_point (cons_ne_of_ne point)] at split
      cases split
      exact splitFraction?_of_no_point (cons_ne_of_ne point)

/-- A sign is split off a text alike whatever follows the text. -/
theorem splitSign_append (nonempty : text ≠ []) :
    Binary64.splitSign (text ++ rest) =
      ((Binary64.splitSign text).1, (Binary64.splitSign text).2 ++ rest) := by
  obtain ⟨c, text, rfl⟩ := List.exists_cons_of_ne_nil nonempty
  by_cases minus : c = '-'
  · subst minus
    rfl
  · by_cases plus : c = '+'
    · subst plus
      rfl
    · simp [Binary64.splitSign, minus, plus]

/-- The exponent of a number is split off alike in front of what ends a number. -/
theorem splitExponent?_append (ends : EndsNumber rest) {exponent : Option Int}
    (split : splitExponent? text = some (exponent, after)) :
    splitExponent? (text ++ rest) = some (exponent, after ++ rest) := by
  cases text with
  | nil =>
    cases split
    cases rest with
    | nil => rfl
    | cons mark later =>
      obtain ⟨-, -, small, capital⟩ := ends mark rfl
      rw [List.nil_append, splitExponent?, if_neg (not_or.mpr ⟨small, capital⟩)]
  | cons mark text =>
    rw [splitExponent?] at split
    rw [List.cons_append, splitExponent?]
    by_cases marked : mark = 'e' ∨ mark = 'E'
    · rw [if_pos marked] at split ⊢
      have nonempty : text ≠ [] := by
        rintro rfl
        cases split
      rw [splitSign_append nonempty]
      dsimp only at split ⊢
      rw [takeWhile_append_of_ends ends, dropWhile_append_of_ends ends]
      split_ifs at split ⊢ <;> cases split <;> rfl
    · rw [if_neg marked] at split ⊢
      cases split
      rfl

/-- A number without a sign in front, from its three parts. -/
def splitUnsigned? (negative : Bool) (text : List Char) : Option (NumberLiteral × List Char) := do
  let (whole, rest) ← splitWhole? text
  let (fraction, rest) ← splitFraction? rest
  let (exponent, rest) ← splitExponent? rest
  return ({ negative, whole, fraction, exponent }, rest)

/-- A minus makes the number behind it negative. -/
@[simp]
theorem split?_minus (text : List Char) : split? ('-' :: text) = splitUnsigned? true text := rfl

/-- Without a minus the number is positive. -/
theorem split?_of_no_minus (first : ∀ rest, text ≠ '-' :: rest) :
    split? text = splitUnsigned? false text := by
  rw [split?.eq_def]
  split
  next negative unsigned sign =>
    split at sign
    · exact absurd rfl (first _)
    · cases sign
      rfl

/-- A number without its sign is split off alike in front of what ends a number. Its three parts are
split off one after the other. -/
theorem splitUnsigned?_append (ends : EndsNumber rest) {negative : Bool} {literal : NumberLiteral}
    (split : splitUnsigned? negative text = some (literal, after)) :
    splitUnsigned? negative (text ++ rest) = some (literal, after ++ rest) := by
  simp only [splitUnsigned?, Option.bind_eq_bind, Option.bind_eq_some_iff] at split
  obtain ⟨⟨whole, left⟩, isWhole, ⟨fraction, left'⟩, isFraction, ⟨exponent, left''⟩, isExponent,
    same⟩ := split
  cases same
  simp only [splitUnsigned?, splitWhole?_append ends isWhole,
    splitFraction?_append ends isFraction, splitExponent?_append ends isExponent,
    Option.bind_eq_bind, Option.bind_some]
  rfl

/-- A number is read in the same way whatever it is followed by, as long as that ends it. -/
theorem split?_append (ends : EndsNumber rest) {literal : NumberLiteral}
    (split : split? text = some (literal, after)) :
    split? (text ++ rest) = some (literal, after ++ rest) := by
  cases text with
  | nil => cases split
  | cons c text =>
    by_cases minus : c = '-'
    · subst minus
      exact splitUnsigned?_append ends split
    · rw [split?_of_no_minus (cons_ne_of_ne minus)] at split
      rw [List.cons_append, split?_of_no_minus (cons_ne_of_ne minus)]
      exact splitUnsigned?_append ends split

/-- What is left behind a whole part is an end of the text. -/
theorem suffix_of_splitWhole? {digits : List Char}
    (split : splitWhole? text = some (digits, rest)) : rest <:+ text := by
  rw [splitWhole?.eq_def] at split
  split at split
  · cases split
    exact List.suffix_cons ..
  · dsimp only at split
    split_ifs at split
    cases split
    exact List.dropWhile_suffix _

/-- What is left behind a fraction is an end of the text. -/
theorem suffix_of_splitFraction? {digits : List Char}
    (split : splitFraction? text = some (digits, rest)) : rest <:+ text := by
  rw [splitFraction?.eq_def] at split
  split at split
  · dsimp only at split
    split_ifs at split
    cases split
    exact (List.dropWhile_suffix _).trans (List.suffix_cons ..)
  · cases split
    exact List.suffix_refl _

/-- What is left behind a sign is an end of the text. -/
theorem splitSign_suffix : (Binary64.splitSign text).2 <:+ text := by
  rw [Binary64.splitSign.eq_def]
  split
  · exact List.suffix_cons ..
  · exact List.suffix_cons ..
  · exact List.suffix_refl _

/-- What is left behind an exponent is an end of the text. -/
theorem suffix_of_splitExponent? {exponent : Option Int}
    (split : splitExponent? text = some (exponent, rest)) : rest <:+ text := by
  rw [splitExponent?.eq_def] at split
  split at split
  · cases split
    exact List.suffix_refl _
  · dsimp only at split
    split_ifs at split with marked empty signed
    · cases split
      exact ((List.dropWhile_suffix _).trans splitSign_suffix).trans (List.suffix_cons ..)
    · cases split
      exact ((List.dropWhile_suffix _).trans splitSign_suffix).trans (List.suffix_cons ..)
    · cases split
      exact List.suffix_refl _

/-- What is left behind a number is an end of the text. -/
theorem suffix_of_splitUnsigned? {negative : Bool} {literal : NumberLiteral}
    (split : splitUnsigned? negative text = some (literal, rest)) : rest <:+ text := by
  simp only [splitUnsigned?, Option.bind_eq_bind, Option.bind_eq_some_iff] at split
  obtain ⟨⟨whole, left⟩, isWhole, ⟨fraction, left'⟩, isFraction, ⟨exponent, left''⟩, isExponent,
    same⟩ := split
  cases same
  exact (suffix_of_splitExponent? isExponent).trans
    ((suffix_of_splitFraction? isFraction).trans (suffix_of_splitWhole? isWhole))

/-- What a number leaves is the end of the text. -/
theorem suffix_of_split? {literal : NumberLiteral}
    (split : split? text = some (literal, rest)) : rest <:+ text := by
  cases text with
  | nil => cases split
  | cons c text =>
    by_cases minus : c = '-'
    · subst minus
      exact (suffix_of_splitUnsigned? split).trans (List.suffix_cons ..)
    · rw [split?_of_no_minus (cons_ne_of_ne minus)] at split
      exact suffix_of_splitUnsigned? split

/-- A number starts with a sign or a digit. -/
theorem head_of_split? {literal : NumberLiteral} (split : split? text = some (literal, after)) :
    ∃ c later, text = c :: later ∧ (c = '-' ∨ c.isDigit = true) := by
  cases text with
  | nil => cases split
  | cons c text =>
    refine ⟨c, text, rfl, ?_⟩
    by_contra neither
    obtain ⟨minus, digit⟩ := not_or.mp neither
    have zero : c ≠ '0' := by
      rintro rfl
      exact digit rfl
    rw [split?_of_no_minus (cons_ne_of_ne minus), splitUnsigned?,
      splitWhole?_of_nonzero (cons_ne_of_ne zero), List.takeWhile_cons_of_neg digit] at split
    cases split

end Parts

/-- A whole number as it is written. -/
def ofInt (value : Int) : NumberLiteral :=
  { negative := decide (value < 0), whole := decimalDigits value.natAbs, fraction := []
    exponent := none }

/-- The digits of a number other than zero do not start with a zero. -/
theorem decimalDigits_ne_zero_cons {value : Nat} (positive : 0 < value) (rest : List Char) :
    decimalDigits value ≠ '0' :: rest := by
  induction value using Nat.strongRecOn generalizing rest with
  | ind value ih =>
    rcases lt_or_ge value 10 with small | large
    · rw [decimalDigits, Nat.toDigits_of_lt_base small]
      intro same
      exact absurd (Nat.digitChar_eq_zero.mp (List.cons.inj same).1) (Nat.ne_of_gt positive)
    · have shorter := ih (value / 10) (Nat.div_lt_self positive (by decide))
        (Nat.div_pos large (by decide))
      rw [decimalDigits, Nat.toDigits_of_base_le (by decide) large]
      intro same
      cases higher : Nat.toDigits 10 (value / 10) with
      | nil => exact absurd higher Nat.toDigits_ne_nil
      | cons c digits =>
        rw [higher] at same
        exact shorter digits (higher.trans (congrArg (· :: digits) (List.cons.inj same).1))

/-- The digits of a whole number are a whole part. -/
@[simp]
theorem splitWhole?_decimalDigits (value : Nat) :
    splitWhole? (decimalDigits value) = some (decimalDigits value, []) := by
  rcases Nat.eq_zero_or_pos value with rfl | positive
  · rfl
  · have digits := Binary64.areDigits_decimalDigits value
    have nonempty : (decimalDigits value).isEmpty = false :=
      List.isEmpty_eq_false_iff.mpr Nat.toDigits_ne_nil
    rw [splitWhole?_of_nonzero (decimalDigits_ne_zero_cons positive),
      List.takeWhile_eq_self_iff.mpr digits, List.dropWhile_eq_nil_iff.mpr digits, nonempty]
    rfl

/-- The text of a whole number is read as what was written. -/
theorem split?_signedDigits (value : Int) :
    split? (signedDigits value) = some (ofInt value, []) := by
  have unsigned (negative : Bool) : splitUnsigned? negative (decimalDigits value.natAbs) =
      some ({ negative, whole := decimalDigits value.natAbs, fraction := [], exponent := none },
        []) := by
    rw [splitUnsigned?, splitWhole?_decimalDigits]
    rfl
  rw [signedDigits, ofInt]
  split_ifs with negative
  · rw [split?_minus, unsigned, decide_eq_true negative]
  · have first : ∀ later, decimalDigits value.natAbs ≠ '-' :: later := by
      rintro later same
      exact (Binary64.areDigits_decimalDigits value.natAbs).minus_not_mem
        (same ▸ List.mem_cons_self)
    rw [split?_of_no_minus first, unsigned, decide_eq_false negative]

/-- A whole number of at most 64 bits is its text's value. -/
theorem toJson?_ofInt {value : Int} (fits : fitsWord 64 value = true) :
    (ofInt value).toJson? = some (.int value) := by
  have size : Binary64.valueOfDigits (decimalDigits value.natAbs) = value.natAbs :=
    Binary64.valueOfDigits_decimalDigits _
  have signed : (if decide (value < 0) = true then -(value.natAbs : Int) else value.natAbs) =
      value := by
    simp only [decide_eq_true_eq]
    split_ifs <;> omega
  have notMinusZero : (decide (value < 0) && value.natAbs == 0) = false := by
    rw [Bool.and_eq_false_imp]
    intro negative
    have := of_decide_eq_true negative
    simp only [beq_eq_false_iff_ne]
    omega
  rw [toJson?, ofInt]
  simp only [size, signed, notMinusZero, fits]
  rfl

end NumberLiteral

/-- Whether a text has no blanks and no control characters. -/
def IsVisible (text : List Char) : Prop := ∀ c ∈ text, 32 < c.toNat

instance (text : List Char) : Decidable (IsVisible text) := List.decidableBAll _ text

namespace IsVisible

/-- Visible texts make a visible text. -/
theorem append {text rest : List Char} (visible : IsVisible text) (visible' : IsVisible rest) :
    IsVisible (text ++ rest) :=
  fun c member => (List.mem_append.mp member).elim (visible c) (visible' c)

/-- A visible character before a visible text makes another. -/
theorem cons {c : Char} {rest : List Char} (visible : 32 < c.toNat) (visible' : IsVisible rest) :
    IsVisible (c :: rest) :=
  List.forall_mem_cons.mpr ⟨visible, visible'⟩

/-- Digits are visible. -/
theorem of_digits {text : List Char} (digits : Binary64.AreDigits text) : IsVisible text := by
  intro c member
  have digit := digits c member
  simp only [Char.isDigit, Bool.and_eq_true, decide_eq_true_eq] at digit
  have : (48 : Nat) ≤ c.toNat := UInt32.le_iff_toNat_le.mp digit.1
  omega

/-- Digits that are written positionally are visible. -/
theorem positionally {digits : List Char} (run : Binary64.AreDigits digits) (exponent : Int) :
    IsVisible (Binary64.interchangeForm.positionally digits exponent) := by
  have zeros (count : Nat) := of_digits (Binary64.areDigits_zeros count)
  rw [Binary64.Form.positionally]
  dsimp only
  split_ifs
  · exact ((of_digits run).append (zeros _)).append (by decide)
  · exact (of_digits (run.take _)).append (cons (by decide) (of_digits (run.drop _)))
  · exact cons (by decide) (cons (by decide) ((zeros _).append (of_digits run)))

/-- Digits that are written with an exponent are visible. -/
theorem scientifically {digits : List Char} (run : Binary64.AreDigits digits) (leading : Int) :
    IsVisible (Binary64.scientifically digits leading) := by
  have visible := of_digits run
  rw [Binary64.scientifically.eq_def]
  dsimp only
  refine append ?_ (cons (by decide) (cons ?_ (of_digits (Binary64.areDigits_decimalDigits _))))
  · cases digits with
    | nil => exact visible
    | cons first later =>
      obtain ⟨one, others⟩ := List.forall_mem_cons.mp visible
      cases later with
      | nil => exact visible
      | cons second rest => exact cons one (cons (by decide) others)
  · split_ifs <;> decide

/-- The text of a magnitude is visible. -/
theorem unsigned (magnitude : Nat) : IsVisible (Binary64.interchangeForm.unsigned magnitude) := by
  rw [Binary64.Form.unsigned]
  dsimp only
  split_ifs
  · decide
  · exact positionally (Binary64.areDigits_decimalDigits _) _
  · exact scientifically (Binary64.areDigits_decimalDigits _) _

/-- The text of a fractional number is visible. -/
theorem writeFloat (x : Binary64) : IsVisible (Json.writeFloat x []) := by
  rw [Json.writeFloat, Binary64.interchange, Binary64.withSign]
  dsimp only
  rw [List.append_nil, List.append_nil, String.toList_ofList]
  have digits := unsigned x.magnitude
  split_ifs
  · decide
  · exact cons (by decide) (by decide)
  · exact cons (by decide) digits
  · decide
  · exact digits
  · decide

end IsVisible

namespace JsonTree

/-- No visible character is skipped. -/
@[simp]
theorem skipSpace_cons {c : Char} (visible : 32 < c.toNat) (rest : List Char) :
    skipSpace (c :: rest) = c :: rest := by
  refine List.dropWhile_cons_of_neg ?_
  rintro blank
  simp only [Bool.or_eq_true, beq_iff_eq] at blank
  rcases blank with ((rfl | rfl) | rfl) | rfl <;> exact absurd visible (by decide)

/-- Nothing of a visible text is skipped. -/
theorem skipSpace_of_isVisible {text : List Char} (visible : IsVisible text) :
    skipSpace text = text := by
  cases text with
  | nil => rfl
  | cons c rest => exact skipSpace_cons (visible c List.mem_cons_self) rest

/-- Only a number is read as a number. -/
theorem numberSplit?_of_split? {fuel : Nat} {source rest : List Char} {literal : NumberLiteral}
    (split : split? fuel source = some (number literal, rest)) :
    NumberLiteral.split? (skipSpace source) = some (literal, rest) := by
  cases fuel with
  | zero => cases split
  | succ fuel =>
    rw [split?] at split
    split at split
    case h_4 =>
      obtain ⟨_, -, other⟩ := Option.map_eq_some_iff.mp split
      cases other
    case h_5 | h_6 =>
      split at split
      · cases split
      · obtain ⟨_, -, other⟩ := Option.map_eq_some_iff.mp split
        cases other
    case h_7 =>
      obtain ⟨_, read, same⟩ := Option.map_eq_some_iff.mp split
      cases same
      exact read
    all_goals cases split

end JsonTree

namespace Binary64

/-- Whether the text of a number stands for the number. -/
def ReadsBack (x : Binary64) : Prop := Json.ofText? (Json.float x).compact = some (.float x)

/-- Whether a value is a given number. -/
def isValue (x : Binary64) : Json → Bool
  | .float value => value = x
  | _ => false

instance (x : Binary64) : Decidable x.ReadsBack :=
  decidable_of_iff ((Json.ofText? (Json.float x).compact).any x.isValue = true) <| by
    rw [ReadsBack, Option.any_eq_true]
    constructor
    · rintro ⟨value, read, same⟩
      cases value with
      | float value => rw [read, of_decide_eq_true same]
      | _ => cases same
    · intro read
      exact ⟨_, read, decide_eq_true rfl⟩

/-- A number that is read back is taken off its text as a whole. -/
theorem ReadsBack.exists_literal {x : Binary64} (reads : x.ReadsBack) :
    ∃ literal, NumberLiteral.split? (Json.writeFloat x []) = some (literal, []) ∧
      literal.toJson? = some (.float x) := by
  have visible := IsVisible.writeFloat x
  obtain ⟨tree, whole, value⟩ := Option.bind_eq_some_iff.mp reads
  obtain ⟨literal, rfl⟩ : ∃ literal, tree = .number literal := by
    cases tree with
    | number literal => exact ⟨literal, rfl⟩
    | null | bool => cases value
    | text => simp [JsonTree.evaluate?] at value
    | array => simp [JsonTree.evaluate?, Json.maxDepth] at value
    | object => simp [JsonTree.evaluate?, Json.maxDepth, Json.sortedObject] at value
  rw [JsonTree.ofText?, Json.compact, String.toList_ofList, Json.write] at whole
  split at whole
  case h_1 tree rest split =>
    split_ifs at whole with ended
    cases whole
    have read := JsonTree.numberSplit?_of_split? split
    rw [JsonTree.skipSpace_of_isVisible visible] at read
    have left : IsVisible rest := by
      intro c member
      exact visible c ((NumberLiteral.suffix_of_split? read).subset member)
    rw [JsonTree.skipSpace_of_isVisible left, List.isEmpty_iff] at ended
    subst ended
    exact ⟨literal, read, value⟩
  case h_2 => cases whole

end Binary64

end ArgoQuery
