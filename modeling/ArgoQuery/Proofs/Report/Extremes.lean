import ArgoQuery.Proofs.Binary64.Likeness
import ArgoQuery.Report.Spread

/-!
# The ends of a spread

The ends of a spread come from folds that start with the first number and choose between the last
choice and the next number. What they come to is one of the numbers and precedes every one that is
not NaN (`Spread.exists_of_ne_nil`), so it is NaN only if there is nothing else. That determines it
up to the sign of a zero (`Binary64.IsExtreme.alike`), and the order of the numbers has no part in
it.
-/

namespace ArgoQuery

namespace Binary64

variable {precedes : Binary64 → Binary64 → Prop} {choose : Binary64 → Binary64 → Binary64}

/-- Whether a number is one of some numbers and precedes all of them but NaN. -/
structure IsExtreme (precedes : Binary64 → Binary64 → Prop) (numbers : List Binary64)
    (x : Binary64) : Prop where
  member : x ∈ numbers
  precedes_of_mem : ∀ number ∈ numbers, number.isNaN = false → precedes x number

/-- Whether a choice between two numbers takes the one that precedes the other. NaN precedes
nothing, and what precedes each other is equal as a number. -/
structure IsChoice (precedes : Binary64 → Binary64 → Prop)
    (choose : Binary64 → Binary64 → Binary64) : Prop where
  number : ∀ {x y}, precedes x y → x.isNaN = false
  trans : ∀ {x y z}, precedes x y → precedes y z → precedes x z
  same : ∀ {x y}, precedes x y → precedes y x → x.Same y
  extreme : ∀ x y, IsExtreme precedes [x, y] (choose x y)

/-- The lesser of two numbers is a choice of the one that is at most the other. -/
theorem isChoice_lesser : IsChoice (· ≤ ·) lesser where
  number order := (le_iff.mp order).1
  trans := le_trans
  same order order' := ⟨order, order'⟩
  extreme x y := by
    constructor
    case member =>
      rw [lesser]
      split_ifs <;> simp
    case precedes_of_mem =>
      rw [lesser]
      simp only [List.forall_mem_cons, le_iff, lt_iff]
      grind

/-- The greater of two numbers is a choice of the one that is at least the other. -/
theorem isChoice_greater : IsChoice (fun x y => y ≤ x) greater where
  number order := (le_iff.mp order).2.1
  trans order order' := le_trans order' order
  same order order' := ⟨order', order⟩
  extreme x y := by
    constructor
    case member =>
      rw [greater]
      split_ifs <;> simp
    case precedes_of_mem =>
      rw [greater]
      simp only [List.forall_mem_cons, le_iff, lt_iff]
      grind

/-- Choosing between the last choice and the next number comes to an extreme of all of them. At the
end of the induction a single number is chosen between itself and itself. -/
theorem IsChoice.foldl_isExtreme (choice : IsChoice precedes choose) (first : Binary64)
    (rest : List Binary64) : IsExtreme precedes (first :: rest) (rest.foldl choose first) := by
  induction rest generalizing first with
  | nil =>
    have self := choice.extreme first first
    refine ⟨List.mem_singleton_self first, fun number listed present => ?_⟩
    have chosen : choose first first = first := by simpa using self.member
    rw [List.mem_singleton] at listed
    simpa [chosen, listed] using self.precedes_of_mem number (by simp [listed]) present
  | cons next rest ih =>
    rw [List.foldl_cons]
    have later := ih (choose first next)
    have here := choice.extreme first next
    constructor
    case member =>
      rcases List.mem_cons.mp later.member with found | found
      · rw [found]
        exact List.mem_append_left rest here.member
      · exact List.mem_cons_of_mem _ (List.mem_cons_of_mem _ found)
    case precedes_of_mem =>
      intro number listed present
      rcases List.mem_append.mp (show number ∈ [first, next] ++ rest from listed) with early | late
      · have order := here.precedes_of_mem number early present
        have chosen := later.precedes_of_mem _ List.mem_cons_self (choice.number order)
        exact choice.trans chosen order
      · exact later.precedes_of_mem number (List.mem_cons_of_mem _ late) present

/-- The same numbers have like extremes. -/
theorem IsExtreme.alike (choice : IsChoice precedes choose) {numbers others : List Binary64}
    {x y : Binary64} (same : ∀ number, number ∈ numbers ↔ number ∈ others)
    (extreme : IsExtreme precedes numbers x) (extreme' : IsExtreme precedes others y) :
    x.Alike y := by
  have before : y.isNaN = false → precedes x y :=
    extreme.precedes_of_mem y ((same y).mpr extreme'.member)
  have after : x.isNaN = false → precedes y x :=
    extreme'.precedes_of_mem x ((same x).mp extreme.member)
  cases absent : x.isNaN with
  | false => exact .inl (choice.same (before (choice.number (after absent))) (after absent))
  | true =>
    cases absent' : y.isNaN with
    | true => exact .of_isNaN absent absent'
    | false => exact absurd absent (Bool.eq_false_iff.mp (choice.number (before absent')))

end Binary64

namespace Spread

open Binary64 (IsExtreme)

/-- Numbers have a spread, whose ends are the least and the greatest of them. -/
theorem exists_of_ne_nil {numbers : List Binary64} (nonempty : numbers ≠ []) :
    ∃ spread, ofNumbers? numbers = some spread ∧ IsExtreme (· ≤ ·) numbers spread.min ∧
      IsExtreme (fun x y => y ≤ x) numbers spread.max ∧ spread.count = numbers.length := by
  obtain ⟨first, rest, rfl⟩ := List.exists_cons_of_ne_nil nonempty
  exact ⟨_, rfl, Binary64.isChoice_lesser.foldl_isExtreme first rest,
    Binary64.isChoice_greater.foldl_isExtreme first rest, rfl⟩

/-- Whether two spreads have like ends and count the same. Their means may differ, since they
depend on the order in which the numbers are added up. -/
structure AgreesWith (spread other : Spread) : Prop where
  min : spread.min.Alike other.min
  max : spread.max.Alike other.max
  count : spread.count = other.count

/-- The order of some numbers does not matter to the ends of their spread. -/
theorem ofNumbers?_perm {numbers others : List Binary64} (perm : numbers.Perm others) :
    Option.Rel AgreesWith (ofNumbers? numbers) (ofNumbers? others) := by
  by_cases nonempty : numbers = []
  · subst nonempty
    rw [← perm.nil_eq]
    exact .none
  · have nonempty' : others ≠ [] := fun empty => nonempty (empty ▸ perm).eq_nil
    obtain ⟨spread, found, least, greatest, count⟩ := exists_of_ne_nil nonempty
    obtain ⟨other, found', least', greatest', count'⟩ := exists_of_ne_nil nonempty'
    have same (number : Binary64) : number ∈ numbers ↔ number ∈ others := perm.mem_iff
    rw [found, found']
    refine .some ⟨?_, ?_, ?_⟩
    · exact least.alike Binary64.isChoice_lesser same least'
    · exact greatest.alike Binary64.isChoice_greater same greatest'
    · rw [count, count', perm.length_eq]

end Spread

end ArgoQuery
