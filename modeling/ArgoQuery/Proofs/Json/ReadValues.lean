import ArgoQuery.Proofs.Binary64.RoundedSums
import ArgoQuery.Proofs.Json.CanonicalValues

/-!
# What is read is canonical

Whatever its text, a value that is read is canonical: the fields of its objects are in ascending
order, its integers fit 64 bits, and its fractional numbers are finite. Main statement:
`Json.isCanonical_of_ofText?`.

The number is the part that takes an argument. Powers of ten up to `10 ^ 308` are finite and at
least one, so dividing by them leaves a finite number finite; a product may become infinite, and is
then refused.
-/

namespace ArgoQuery

namespace Binary64

/-- The product of finite numbers is a number. -/
theorem isNaN_mul {x y : Binary64} (finite : x.isFinite = true) (finite' : y.isFinite = true) :
    (x * y).isNaN = false := by
  have product : x * y = multiply x y := rfl
  simp only [product, multiply, isNaN_eq_false finite, isNaN_eq_false finite',
    isInfinite_eq_false finite, isInfinite_eq_false finite', Bool.or_self, Bool.false_eq_true,
    if_false]
  exact isNaN_ofRatio

/-- The quotient of a finite number by one that is at least one is finite. -/
theorem isFinite_div {x y : Binary64} (finite : x.isFinite = true) (finite' : y.isFinite = true)
    (large : unitsPerOne ≤ y.units.natAbs) : (x / y).isFinite = true := by
  have positive : 0 < y.units.natAbs := Nat.lt_of_lt_of_le unitsPerOne_pos large
  have nonzero : y.isZero = false := by
    refine decide_eq_false fun zero => ?_
    rw [natAbs_units, zero] at positive
    exact absurd positive (by decide)
  have quotient : x / y = ofRatio (x.isNegative != y.isNegative) x.units.natAbs y.units.natAbs := by
    have same : x / y = divide x y := rfl
    simp only [same, divide, isNaN_eq_false finite, isNaN_eq_false finite',
      isInfinite_eq_false finite, isInfinite_eq_false finite', nonzero, Bool.or_self,
      Bool.false_eq_true, if_false]
  have below : nearestMagnitude x.units.natAbs y.units.natAbs ≤ x.magnitude :=
    calc nearestMagnitude x.units.natAbs y.units.natAbs
        ≤ nearestMagnitude x.units.natAbs unitsPerOne :=
          nearestMagnitude_mono positive unitsPerOne_pos (Nat.mul_le_mul_left _ large)
      _ = x.magnitude := by
          rw [natAbs_units,
            nearestMagnitude_unitsOfMagnitude (magnitude_le (isNaN_eq_false finite))]
  rw [quotient, ofRatio, isFinite, magnitude_ofMagnitude _ (nearestMagnitude_le ..)]
  exact decide_eq_true (Nat.lt_of_le_of_lt below (of_decide_eq_true finite))

end Binary64

namespace NumberLiteral

/-- A power of ten that is a finite number is the one nearest to it. -/
theorem power_eq {exponent : Nat} (small : exponent ≤ 308) :
    power exponent = .ofRatio false (10 ^ exponent) 1 := by
  have log : Nat.log2 1 = 0 := by decide
  rw [power, Binary64.ofDecimal, log, if_neg Nat.one_ne_zero, if_neg (by omega), if_neg (by omega),
    if_pos (Int.natCast_nonneg _), Int.toNat_natCast]
  exact congrArg (Binary64.ofRatio false · 1) (Nat.one_mul _)

/-- The powers that numbers are scaled by are finite and at least one. -/
theorem power_bounds {exponent : Nat} (small : exponent ≤ 308) :
    (power exponent).isFinite = true ∧
      Binary64.unitsPerOne ≤ (power exponent).units.natAbs := by
  have magnitude : (power exponent).magnitude = Binary64.nearestMagnitude (10 ^ exponent) 1 := by
    rw [power_eq small, Binary64.ofRatio,
      Binary64.magnitude_ofMagnitude _ (Binary64.nearestMagnitude_le ..)]
  have grow {low high : Nat} (order : low ≤ high) :
      Binary64.nearestMagnitude (10 ^ low) 1 ≤ Binary64.nearestMagnitude (10 ^ high) 1 := by
    refine Binary64.nearestMagnitude_mono Nat.one_pos Nat.one_pos (Nat.mul_le_mul_right _ ?_)
    exact Nat.pow_le_pow_right (by decide) order
  constructor
  · have largest : Binary64.nearestMagnitude (10 ^ 308) 1 < Binary64.infiniteMagnitude := by
      decide +kernel
    rw [Binary64.isFinite, magnitude]
    exact decide_eq_true (Nat.lt_of_le_of_lt (grow small) largest)
  · have one : Binary64.unitsOfMagnitude (Binary64.nearestMagnitude (10 ^ 0) 1) =
        Binary64.unitsPerOne := by decide +kernel
    rw [Binary64.natAbs_units, magnitude, ← one]
    exact Binary64.unitsOfMagnitude_strictMono.monotone (grow (Nat.zero_le exponent))

/-- A finite number that is scaled stays finite, or is refused. -/
theorem isFinite_of_scale? {number size : Binary64} {exponent : Int}
    (finite : number.isFinite = true) (scaled : scale? number exponent = some size) :
    size.isFinite = true := by
  have quotient {x : Binary64} (finite : x.isFinite = true) {places : Nat} (small : places ≤ 308) :
      (x / power places).isFinite = true :=
    Binary64.isFinite_div finite (power_bounds small).1 (power_bounds small).2
  rw [scale?] at scaled
  dsimp only at scaled
  split_ifs at scaled with upwards zero bounded infinite once twice
  · cases scaled
    exact finite
  · cases scaled
    have small : exponent.toNat ≤ 308 := by omega
    exact Binary64.isFinite_of_isInfinite (Binary64.isNaN_mul finite (power_bounds small).1)
      (Bool.eq_false_iff.mpr infinite)
  · cases scaled
    exact quotient finite (by omega)
  · cases scaled
    exact quotient (quotient finite (Nat.le_refl 308)) (by omega)
  · cases scaled
    decide

/-- Digits are collected only as long as they fit. -/
theorem collect_le {significand : Nat} {digits : List Char} (small : significand ≤ maxSignificand) :
    (collect significand digits).1 ≤ maxSignificand := by
  induction digits generalizing significand with
  | nil => exact small
  | cons digit rest ih =>
    simp only [collect]
    split_ifs with fits
    · exact ih fits
    · exact small

/-- A literal is read as a finite number or not at all. -/
theorem isFinite_of_toFloat? {literal : NumberLiteral} {value : Binary64}
    (read : literal.toFloat? = some value) : value.isFinite = true := by
  have small : (collect (collect 0 literal.whole).1 literal.fraction).1 ≤ maxSignificand :=
    collect_le (collect_le (Nat.zero_le _))
  have number : (Binary64.ofInt
      (collect (collect 0 literal.whole).1 literal.fraction).1).isFinite = true := by
    refine Binary64.isFinite_ofInt (Nat.le_trans small ?_)
    decide
  obtain ⟨size, scaled, signed⟩ := Option.bind_eq_some_iff.mp read
  have finite := isFinite_of_scale? number scaled
  cases signed
  split_ifs
  · exact Binary64.isFinite_neg (Binary64.isNaN_eq_false finite) finite
  · exact finite

/-- A literal is read as a canonical value. -/
theorem isCanonical_of_toJson? {literal : NumberLiteral} {value : Json}
    (read : literal.toJson? = some value) : value.IsCanonical := by
  rw [toJson?] at read
  generalize (if literal.negative then -(Binary64.valueOfDigits literal.whole : Int)
    else Binary64.valueOfDigits literal.whole) = signed at read
  split_ifs at read with whole
  · cases read
    rw [Bool.and_eq_true, Bool.and_eq_true] at whole
    exact .int whole.1.2
  · obtain ⟨size, found, rfl⟩ := Option.map_eq_some_iff.mp read
    exact .float (isFinite_of_toFloat? found)

end NumberLiteral

namespace Json

/-- An object is canonical once its fields are sorted, if their values are. -/
theorem isCanonical_sortedObject {fields : List (String × Json)}
    (each : ∀ field ∈ fields, field.2.IsCanonical) : (sortedObject fields).IsCanonical := by
  obtain ⟨sorted, same, ascending, origin⟩ := exists_sortedObject_eq fields
  rw [same]
  exact .object ascending fun field member => each field (origin field member)

end Json

namespace JsonTree

open Json (sortedObject)

mutual

/-- A tree evaluates to a canonical value. The three statements, of a tree, its items and its
fields, are proved by one induction that follows the evaluation. -/
theorem isCanonical_of_evaluate? : ∀ {depth : Nat} {tree : JsonTree} {value : Json},
    tree.evaluate? sortedObject depth = some value → value.IsCanonical
  | _, null, _, read => by
    cases read
    exact .null
  | _, bool flag, _, read => by
    cases read
    exact .bool flag
  | _, number literal, _, read => NumberLiteral.isCanonical_of_toJson? read
  | _, text _, _, read => by
    obtain ⟨value, -, rfl⟩ := Option.map_eq_some_iff.mp read
    exact .text value
  | 0, array _, _, read => by cases read
  | 0, object _, _, read => by cases read
  | depth + 1, array items, _, read => by
    obtain ⟨values, found, rfl⟩ := Option.map_eq_some_iff.mp read
    exact .array (isCanonical_of_evaluateItems? found)
  | depth + 1, object fields, _, read => by
    obtain ⟨values, found, rfl⟩ := Option.map_eq_some_iff.mp read
    exact Json.isCanonical_sortedObject (isCanonical_of_evaluateFields? found)

/-- The items of an array evaluate to canonical values. -/
theorem isCanonical_of_evaluateItems? : ∀ {depth : Nat} {items : List JsonTree}
    {values : List Json}, evaluateItems? sortedObject depth items = some values →
      ∀ value ∈ values, value.IsCanonical
  | _, [], _, read => by
    cases read
    exact List.forall_mem_nil _
  | depth, item :: items, _, read => by
    obtain ⟨value, first, others⟩ := Option.bind_eq_some_iff.mp read
    obtain ⟨values, rest, whole⟩ := Option.bind_eq_some_iff.mp others
    cases whole
    exact List.forall_mem_cons.mpr
      ⟨isCanonical_of_evaluate? first, isCanonical_of_evaluateItems? rest⟩

/-- The fields of an object evaluate to canonical values. -/
theorem isCanonical_of_evaluateFields? : ∀ {depth : Nat}
    {fields : List (Option String × JsonTree)} {values : List (String × Json)},
    evaluateFields? sortedObject depth fields = some values →
      ∀ field ∈ values, field.2.IsCanonical
  | _, [], _, read => by
    cases read
    exact List.forall_mem_nil _
  | depth, (name, tree) :: fields, _, read => by
    obtain ⟨field, first, others⟩ := Option.bind_eq_some_iff.mp read
    obtain ⟨values, rest, whole⟩ := Option.bind_eq_some_iff.mp others
    cases whole
    obtain ⟨own, -, second⟩ := Option.bind_eq_some_iff.mp first
    obtain ⟨value, found, pair⟩ := Option.bind_eq_some_iff.mp second
    cases pair
    exact List.forall_mem_cons.mpr
      ⟨isCanonical_of_evaluate? found, isCanonical_of_evaluateFields? rest⟩

end

end JsonTree

/-- A value that is read from a text is canonical. -/
theorem Json.isCanonical_of_ofText? {source : String} {value : Json}
    (read : ofText? source = some value) : value.IsCanonical := by
  obtain ⟨tree, -, evaluated⟩ := Option.bind_eq_some_iff.mp read
  exact JsonTree.isCanonical_of_evaluate? evaluated

end ArgoQuery
