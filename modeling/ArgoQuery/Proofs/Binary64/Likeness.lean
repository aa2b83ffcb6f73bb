import ArgoQuery.Proofs.Binary64.Middles

/-!
# Numbers that are alike

Two numbers are alike if they are equal as numbers, so that the sign of a zero does not count, or if
neither is a number. Sums, differences and halves of like numbers are alike (`Alike.add`,
`Alike.sub`, `Alike.half`), and like numbers lie within the same bounds (`Alike.isWithin_eq`).

Like numbers that differ are both zeros or both NaN, so whatever is to respect likeness has to be
looked at for those only: `Alike.image`.
-/

namespace ArgoQuery.Binary64

/-- Whether two numbers are equal as numbers, or both are none. -/
def Alike (x y : Binary64) : Prop := x.Same y ∨ (x.isNaN = true ∧ y.isNaN = true)

instance (x y : Binary64) : Decidable (x.Alike y) := inferInstanceAs (Decidable (_ ∨ _))

/-- Two numbers are alike if neither or both are NaN, and if they have one rank where they are not.
-/
theorem alike_iff {x y : Binary64} :
    x.Alike y ↔ x.isNaN = y.isNaN ∧ (x.isNaN = false → x.rank = y.rank) := by
  rw [Alike, Same, le_iff, le_iff]
  cases x.isNaN <;> cases y.isNaN <;> simp
  omega

namespace Alike

variable {x y z : Binary64}

/-- A number is like itself. -/
theorem refl (x : Binary64) : x.Alike x := alike_iff.mpr ⟨rfl, fun _ => rfl⟩

/-- Likeness goes both ways. -/
theorem symm (alike : x.Alike y) : y.Alike x := by
  obtain ⟨defined, ranks⟩ := alike_iff.mp alike
  exact alike_iff.mpr ⟨defined.symm, fun number => (ranks (defined.trans number)).symm⟩

/-- What is like a like number is alike. -/
theorem trans (first : x.Alike y) (second : y.Alike z) : x.Alike z := by
  obtain ⟨defined, ranks⟩ := alike_iff.mp first
  obtain ⟨defined', ranks'⟩ := alike_iff.mp second
  refine alike_iff.mpr ⟨defined.trans defined', fun number => ?_⟩
  exact (ranks number).trans (ranks' (defined ▸ number))

/-- Any two NaN are alike. -/
theorem of_isNaN (absent : x.isNaN = true) (absent' : y.isNaN = true) : x.Alike y :=
  .inr ⟨absent, absent'⟩

/-- Any two zeros are alike, whatever their signs. -/
theorem of_magnitude_eq_zero (zero : x.magnitude = 0) (zero' : y.magnitude = 0) : x.Alike y := by
  refine alike_iff.mpr ⟨by rw [isNaN, isNaN, zero, zero'], fun _ => ?_⟩
  rw [rank, rank, zero, zero']
  simp

/-- Like numbers are the same one, two zeros, or no numbers. -/
theorem cases (alike : x.Alike y) :
    x = y ∨ (x.magnitude = 0 ∧ y.magnitude = 0) ∨ (x.isNaN = true ∧ y.isNaN = true) := by
  rcases alike with same | absent
  · have units : x.units = y.units :=
      Int.le_antisymm ((rank_le_rank_iff x y).mp same.1.2.2) ((rank_le_rank_iff y x).mp same.2.2.2)
    by_cases nonzero : x.units = 0
    · refine .inr (.inl ⟨unitsOfMagnitude_eq_zero_iff.mp ?_, unitsOfMagnitude_eq_zero_iff.mp ?_⟩)
      · rw [← natAbs_units, nonzero, Int.natAbs_zero]
      · rw [← natAbs_units, ← units, nonzero, Int.natAbs_zero]
    · exact .inl (eq_of_units_eq units nonzero)
  · exact .inr (.inr absent)

/-- A function takes like numbers to like ones if it does so to zeros and to what is no number. -/
theorem image {f : Binary64 → Binary64} (alike : x.Alike y)
    (zeros : ∀ x y : Binary64, x.magnitude = 0 → y.magnitude = 0 → (f x).Alike (f y))
    (absent : ∀ x y : Binary64, x.isNaN = true → y.isNaN = true → (f x).Alike (f y)) :
    (f x).Alike (f y) := by
  rcases alike.cases with rfl | ⟨zero, zero'⟩ | ⟨none, none'⟩
  · exact refl _
  · exact zeros x y zero zero'
  · exact absent x y none none'

/-- Like numbers are within the same bounds. -/
theorem isWithin_eq (alike : x.Alike y) (min max : Binary64) :
    x.isWithin min max = y.isWithin min max := by
  obtain ⟨defined, ranks⟩ := alike_iff.mp alike
  have order : (min ≤ x ↔ min ≤ y) ∧ (x ≤ max ↔ y ≤ max) := by
    simp only [le_iff, ← defined]
    cases number : x.isNaN with
    | true => simp
    | false => simp [ranks number]
  simp only [isWithin, order]

end Alike

/-- A magnitude takes all bits of a number but the one of its sign. -/
theorem magnitude_lt (x : Binary64) : x.magnitude < 2 ^ 63 := Nat.mod_lt _ (by decide)

/-- The magnitude that is given is kept, be it one of a number or not. -/
theorem magnitude_ofMagnitude_of_lt (negative : Bool) {magnitude : Nat}
    (small : magnitude < 2 ^ 63) : (ofMagnitude negative magnitude).magnitude = magnitude := by
  cases negative <;> simp [ofMagnitude, Binary64.magnitude] <;> omega

/-- A change of sign leaves the magnitude. -/
@[simp]
theorem magnitude_neg (x : Binary64) : (-x).magnitude = x.magnitude :=
  magnitude_ofMagnitude_of_lt _ x.magnitude_lt

/-- The absolute value has the magnitude of the number. -/
@[simp]
theorem magnitude_absolute (x : Binary64) : x.absolute.magnitude = x.magnitude :=
  magnitude_ofMagnitude_of_lt _ x.magnitude_lt

/-- Whether a number is NaN depends on its magnitude only. -/
theorem isNaN_of_magnitude_eq {x y : Binary64} (same : x.magnitude = y.magnitude)
    (absent : y.isNaN = true) : x.isNaN = true := by
  rw [isNaN, same]
  exact absent

/-- Like numbers stay alike when both change their signs. -/
theorem Alike.neg {x y : Binary64} (alike : x.Alike y) : (-x).Alike (-y) := by
  refine alike.image (fun x y zero zero' => ?_) fun x y absent absent' => ?_
  · exact .of_magnitude_eq_zero (x.magnitude_neg.trans zero) (y.magnitude_neg.trans zero')
  · exact .of_isNaN (isNaN_of_magnitude_eq x.magnitude_neg absent)
      (isNaN_of_magnitude_eq y.magnitude_neg absent')

/-- Like numbers have like absolute values. -/
theorem Alike.absolute {x y : Binary64} (alike : x.Alike y) : x.absolute.Alike y.absolute := by
  refine alike.image (fun x y zero zero' => ?_) fun x y absent absent' => ?_
  · exact .of_magnitude_eq_zero (x.magnitude_absolute.trans zero) (y.magnitude_absolute.trans zero')
  · exact .of_isNaN (isNaN_of_magnitude_eq x.magnitude_absolute absent)
      (isNaN_of_magnitude_eq y.magnitude_absolute absent')

/-- What a number other than zero stands for is rounded to the number. -/
theorem ofRatio_units {x : Binary64} (number : x.isNaN = false) (nonzero : x.units ≠ 0) :
    ofRatio (decide (x.units < 0)) x.units.natAbs unitsPerOne = x := by
  refine eq_of_sign_of_magnitude ?_ ?_
  · rw [ofRatio, isNegative_ofMagnitude _ (nearestMagnitude_le ..), Bool.eq_iff_iff,
      decide_eq_true_eq, isNegative_iff nonzero]
  · rw [ofRatio, magnitude_ofMagnitude _ (nearestMagnitude_le ..), natAbs_units,
      nearestMagnitude_unitsOfMagnitude (magnitude_le number)]

section Zero

variable {x : Binary64} (zero : x.magnitude = 0)

include zero

/-- A zero is finite. -/
theorem isFinite_of_magnitude_eq_zero : x.isFinite = true := by
  rw [isFinite, zero]
  rfl

/-- A zero has no units. -/
theorem units_of_magnitude_eq_zero : x.units = 0 := by
  rw [units, zero]
  cases x.isNegative <;> rfl

/-- A zero adds nothing, on either side. -/
theorem zero_add_alike (y : Binary64) : (x + y).Alike y ∧ (y + x).Alike y := by
  have finite := isFinite_of_magnitude_eq_zero zero
  have number := isNaN_eq_false finite
  have bounded := isInfinite_eq_false finite
  have sums : x + y = add x y ∧ y + x = add y x := ⟨rfl, rfl⟩
  cases absent : y.isNaN with
  | true =>
    rw [sums.1, sums.2, add, add, absent, Bool.or_true, Bool.true_or]
    exact ⟨.of_isNaN rfl absent, .of_isNaN rfl absent⟩
  | false =>
    cases infinite : y.isInfinite with
    | true =>
      rw [sums.1, sums.2, add, add, absent, number, infinite, bounded]
      exact ⟨.refl y, .refl y⟩
    | false =>
      have finite' := isFinite_of_isInfinite absent infinite
      rw [add_eq finite finite', add_eq finite' finite, units_of_magnitude_eq_zero zero,
        Int.zero_add, Int.add_zero]
      split_ifs with nothing
      · have zero' : y.magnitude = 0 := by
          rw [← unitsOfMagnitude_eq_zero_iff, ← natAbs_units, nothing, Int.natAbs_zero]
        exact ⟨.of_magnitude_eq_zero (magnitude_ofMagnitude _ (Nat.zero_le _)) zero',
          .of_magnitude_eq_zero (magnitude_ofMagnitude _ (Nat.zero_le _)) zero'⟩
      · rw [ofRatio_units absent nothing]
        exact ⟨.refl y, .refl y⟩

end Zero

/-- A sum with NaN is NaN. -/
theorem isNaN_add_of_isNaN {x y : Binary64} (absent : x.isNaN = true ∨ y.isNaN = true) :
    (x + y).isNaN = true := by
  have sum : x + y = add x y := rfl
  rw [sum, add, if_pos ((Bool.or_eq_true ..).mpr absent)]
  rfl

/-- Sums of like numbers are alike. -/
theorem Alike.add {x x' y y' : Binary64} (first : x.Alike x') (second : y.Alike y') :
    (x + y).Alike (x' + y') := by
  have left : (x + y).Alike (x' + y) := by
    refine first.image (f := (· + y)) (fun x x' zero zero' => ?_) fun x x' absent absent' => ?_
    · exact (zero_add_alike zero y).1.trans (zero_add_alike zero' y).1.symm
    · exact .of_isNaN (isNaN_add_of_isNaN (.inl absent)) (isNaN_add_of_isNaN (.inl absent'))
  have right : (x' + y).Alike (x' + y') := by
    refine second.image (f := (x' + ·)) (fun y y' zero zero' => ?_) fun y y' absent absent' => ?_
    · exact (zero_add_alike zero x').2.trans (zero_add_alike zero' x').2.symm
    · exact .of_isNaN (isNaN_add_of_isNaN (.inr absent)) (isNaN_add_of_isNaN (.inr absent'))
  exact left.trans right

/-- Differences of like numbers are alike. -/
theorem Alike.sub {x x' y y' : Binary64} (first : x.Alike x') (second : y.Alike y') :
    (x - y).Alike (x' - y') :=
  first.add second.neg

/-- Halves of like numbers are alike. -/
theorem Alike.half {x y : Binary64} (alike : x.Alike y) : (x / 2).Alike (y / 2) := by
  have zeros (x : Binary64) (zero : x.magnitude = 0) : (x / 2).magnitude = 0 := by
    have finite := isFinite_of_magnitude_eq_zero zero
    rw [half_of_finite (isNaN_eq_false finite) (isInfinite_eq_false finite), ofRatio,
      magnitude_ofMagnitude _ (nearestMagnitude_le ..), units_of_magnitude_eq_zero zero]
    decide +kernel
  have absent (x : Binary64) (absent : x.isNaN = true) : (x / 2).isNaN = true := by
    have quotient : x / 2 = divide x 2 := rfl
    rw [quotient, divide, absent]
    rfl
  refine alike.image (f := (· / 2)) (fun x y zero zero' => ?_) fun x y none none' => ?_
  · exact .of_magnitude_eq_zero (zeros x zero) (zeros y zero')
  · exact .of_isNaN (absent x none) (absent y none')

end ArgoQuery.Binary64
