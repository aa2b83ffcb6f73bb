import ArgoQuery.Sorting.Merge

/-!
# Stable arrangements

A comparison may be an order on some items and contradict itself on others, so every law here is
about a class of items on which it is an order. An arrangement of a list is right if it is in order
and keeps the items of each tie in the order of the list. Main statement: `eq_of_inOrder`, that a
list has at most one such arrangement.

Ties are compared through filters: the items that are tied with a given one, in the order in which
they stand. That makes keeping them a congruence for putting lists together, so it can be shown part
by part.
-/

namespace ArgoQuery.Sorting

variable {α : Type} {before : α → α → Bool} {inside : α → Prop}

/-- The comparison is a strict weak order on the items of a class. An item is at most another if the
other does not come before it. -/
structure IsOrderOn (before : α → α → Bool) (inside : α → Prop) : Prop where
  asymmetric : ∀ {x y}, inside x → inside y → before x y = true → before y x = false
  transitive : ∀ {x y z}, inside x → inside y → inside z →
    before y x = false → before z y = false → before z x = false

/-- No item comes before an earlier one. -/
def InOrder (before : α → α → Bool) (items : List α) : Prop :=
  items.Pairwise fun first second => before second first = false

/-- Neither item comes before the other. -/
def tied (before : α → α → Bool) (x y : α) : Bool := !before x y && !before y x

/-- The items that are tied with any item of the class stand in the order of the list. -/
def KeepsTies (before : α → α → Bool) (inside : α → Prop) (items result : List α) : Prop :=
  ∀ x, inside x → result.filter (tied before x) = items.filter (tied before x)

namespace IsOrderOn

/-- No item comes before itself. -/
theorem irreflexive (order : IsOrderOn before inside) {x : α} (member : inside x) :
    before x x = false := by
  cases compared : before x x with
  | false => rfl
  | true => exact compared ▸ order.asymmetric member member compared

/-- An item is tied with itself. -/
theorem tied_self (order : IsOrderOn before inside) {x : α} (member : inside x) :
    tied before x x = true := by
  simp [tied, order.irreflexive member]

/-- What comes before an item comes before all that it is at most. -/
theorem before_of_before_of_atMost (order : IsOrderOn before inside) {x y z : α} (hx : inside x)
    (hy : inside y) (hz : inside z) (first : before x y = true) (second : before z y = false) :
    before x z = true := by
  cases compared : before x z with
  | true => rfl
  | false => exact absurd first (by simp [order.transitive hy hz hx second compared])

/-- What is at most an item comes before all that it comes before. -/
theorem before_of_atMost_of_before (order : IsOrderOn before inside) {x y z : α} (hx : inside x)
    (hy : inside y) (hz : inside z) (first : before y x = false) (second : before y z = true) :
    before x z = true := by
  cases compared : before x z with
  | true => rfl
  | false => exact absurd second (by simp [order.transitive hz hx hy compared first])

/-- Tied items come before the same items. -/
theorem before_left_of_tied (order : IsOrderOn before inside) {x y z : α} (hx : inside x)
    (hy : inside y) (hz : inside z) (tie : tied before x y = true) :
    before x z = before y z := by
  obtain ⟨xy, yx⟩ : before x y = false ∧ before y x = false := by simpa [tied] using tie
  apply Bool.eq_iff_iff.mpr
  exact ⟨order.before_of_atMost_of_before hy hx hz xy,
    order.before_of_atMost_of_before hx hy hz yx⟩

/-- The same items come before tied items. -/
theorem before_right_of_tied (order : IsOrderOn before inside) {x y z : α} (hx : inside x)
    (hy : inside y) (hz : inside z) (tie : tied before x y = true) :
    before z x = before z y := by
  obtain ⟨xy, yx⟩ : before x y = false ∧ before y x = false := by simpa [tied] using tie
  apply Bool.eq_iff_iff.mpr
  exact ⟨fun first => order.before_of_before_of_atMost hz hx hy first yx,
    fun first => order.before_of_before_of_atMost hz hy hx first xy⟩

/-- Two items that are tied with a third are tied. -/
theorem tied_of_tied (order : IsOrderOn before inside) {x y z : α} (hx : inside x) (hy : inside y)
    (hz : inside z) (first : tied before x y = true) (second : tied before x z = true) :
    tied before y z = true := by
  rw [tied, ← order.before_left_of_tied hx hy hz first,
    ← order.before_right_of_tied hx hy hz first]
  exact second

end IsOrderOn

/-- Read backwards, an order is an order. -/
theorem IsOrderOn.flip (order : IsOrderOn before inside) :
    IsOrderOn (fun x y => before y x) inside where
  asymmetric hx hy first := order.asymmetric hy hx first
  transitive hx hy hz first second := order.transitive hz hy hx second first

/-- Ties go both ways. -/
theorem tied_comm (x y : α) : tied before x y = tied before y x := Bool.and_comm ..

/-- The opposite order has the same ties. -/
theorem tied_flip : tied (fun x y => before y x) = tied before := by
  funext x y
  exact Bool.and_comm ..

/-- Items are in the opposite order if they are in order from the last to the first. -/
theorem inOrder_flip {items : List α} :
    InOrder (fun x y => before y x) items ↔ InOrder before items.reverse := by
  simp [InOrder, List.pairwise_reverse]

/-- What comes before an item is not tied with it. -/
theorem tied_eq_false_of_before {x y : α} (first : before x y = true) :
    tied before x y = false := by
  simp [tied, first]

namespace KeepsTies

/-- Items keep their own ties. -/
theorem refl (items : List α) : KeepsTies before inside items items := fun _ _ => rfl

/-- Ties that are kept twice are kept. -/
theorem trans {first second third : List α} (one : KeepsTies before inside first second)
    (two : KeepsTies before inside second third) : KeepsTies before inside first third :=
  fun x member => (two x member).trans (one x member)

/-- Ties are kept in two lists one after the other if each list keeps its own. -/
theorem append {left right left' right' : List α} (one : KeepsTies before inside left left')
    (two : KeepsTies before inside right right') :
    KeepsTies before inside (left ++ right) (left' ++ right') := by
  intro x member
  rw [List.filter_append, List.filter_append, one x member, two x member]

/-- An item before two lists does not change whether ties are kept. -/
theorem cons (item : α) {items result : List α} (kept : KeepsTies before inside items result) :
    KeepsTies before inside (item :: items) (item :: result) :=
  (refl [item]).append kept

/-- Ties are kept in the reversed lists if they are in the lists. -/
theorem reverse {items result : List α} (kept : KeepsTies before inside items result) :
    KeepsTies before inside items.reverse result.reverse := by
  intro x member
  rw [List.filter_reverse, List.filter_reverse, kept x member]

/-- Two blocks may change places if no item of one is tied with an item of the other: no item is
tied with items of both. -/
theorem swap (order : IsOrderOn before inside) {left right : List α}
    (insideLeft : ∀ x ∈ left, inside x) (insideRight : ∀ y ∈ right, inside y)
    (apart : ∀ x ∈ left, ∀ y ∈ right, tied before x y = false) :
    KeepsTies before inside (left ++ right) (right ++ left) := by
  intro z member
  rw [List.filter_append, List.filter_append]
  by_cases none_left : left.filter (tied before z) = []
  · simp [none_left]
  · obtain ⟨x, found⟩ := List.exists_mem_of_ne_nil _ none_left
    obtain ⟨x_left, x_tied⟩ := List.mem_filter.mp found
    have none_right : right.filter (tied before z) = [] := by
      rw [List.filter_eq_nil_iff]
      intro y y_right y_tied
      have both := order.tied_of_tied member (insideLeft x x_left) (insideRight y y_right) x_tied
        y_tied
      exact absurd both (by simp [apart x x_left y y_right])
    simp [none_right]

/-- Whole groups may change places if no item of one is tied with an item of another.

Two neighbouring groups can change places, and every order of the groups comes of such changes. -/
theorem flatMap_perm {Group : Type} (order : IsOrderOn before inside) {items : Group → List α}
    {known : Group → Prop} (members : ∀ group, known group → ∀ x ∈ items group, inside x)
    (apart : ∀ one other, known one → known other → one ≠ other →
      ∀ x ∈ items one, ∀ y ∈ items other, tied before x y = false)
    {first second : List Group} (perm : first.Perm second) (distinct : first.Nodup)
    (all : ∀ group ∈ first, known group) :
    KeepsTies before inside (first.flatMap items) (second.flatMap items) := by
  induction perm with
  | nil => exact refl _
  | cons group perm ih =>
    rw [List.flatMap_cons, List.flatMap_cons]
    exact (refl _).append (ih (List.nodup_cons.mp distinct).2
      fun other member => all other (List.mem_cons_of_mem group member))
  | swap one other rest =>
    have different : other ≠ one := by
      intro same
      exact (List.nodup_cons.mp distinct).1 (same ▸ List.mem_cons_self)
    have knownOther : known other := all other List.mem_cons_self
    have knownOne : known one := all one (List.mem_cons_of_mem other List.mem_cons_self)
    simp only [List.flatMap_cons, ← List.append_assoc]
    exact (swap order (members other knownOther) (members one knownOne)
      (apart other one knownOther knownOne different)).append (refl _)
  | trans perm _ ih₁ ih₂ =>
    exact (ih₁ distinct all).trans (ih₂ (perm.nodup distinct)
      fun group member => all group (perm.mem_iff.mpr member))

end KeepsTies

/-- A list in order that holds the items of another and keeps its ties. -/
structure Arranges (before : α → α → Bool) (inside : α → Prop) (items result : List α) : Prop where
  perm : result.Perm items
  inOrder : InOrder before result
  ties : KeepsTies before inside items result

/-- An arrangement has no item that the arranged list does not have. -/
theorem Arranges.inside_of_mem {items result : List α}
    (arranged : Arranges before inside items result) (members : ∀ x ∈ items, inside x) :
    ∀ x ∈ result, inside x :=
  fun x member => members x (arranged.perm.mem_iff.mp member)

/-- What arranges a list arranges every list with the same items and ties. -/
theorem Arranges.of_keepsTies {items middle result : List α} (perm : middle.Perm items)
    (ties : KeepsTies before inside items middle)
    (arranged : Arranges before inside middle result) :
    Arranges before inside items result :=
  ⟨arranged.perm.trans perm, arranged.inOrder, ties.trans arranged.ties⟩

/-- Two lists in order that hold the same items and keep the same ties are the same.

The first items of both are tied, since each stands before the other in one of the lists. Both are
then the first item of the same tie, and what is left of the lists keeps the same ties again. -/
theorem eq_of_inOrder (order : IsOrderOn before inside) {first second : List α}
    (members : ∀ x ∈ first, inside x) (perm : first.Perm second) (firstOrder : InOrder before first)
    (secondOrder : InOrder before second) (ties : KeepsTies before inside first second) :
    first = second := by
  induction first generalizing second with
  | nil => exact perm.symm.eq_nil.symm
  | cons a rest ih =>
    cases second with
    | nil => exact absurd perm.eq_nil (List.cons_ne_nil a rest)
    | cons b others =>
      have a_inside : inside a := members a List.mem_cons_self
      have b_inside : inside b := members b (perm.mem_iff.mpr List.mem_cons_self)
      have b_after : before b a = false := by
        rcases List.mem_cons.mp (perm.mem_iff.mpr List.mem_cons_self : b ∈ a :: rest) with
          rfl | later
        · exact order.irreflexive b_inside
        · exact List.rel_of_pairwise_cons firstOrder later
      have a_after : before a b = false := by
        rcases List.mem_cons.mp (perm.mem_iff.mp List.mem_cons_self : a ∈ b :: others) with
          rfl | later
        · exact order.irreflexive a_inside
        · exact List.rel_of_pairwise_cons secondOrder later
      have tie : tied before a b = true := by simp [tied, a_after, b_after]
      have same : a = b := by
        have heads := ties a a_inside
        rw [List.filter_cons_of_pos tie,
          List.filter_cons_of_pos (order.tied_self a_inside)] at heads
        exact (List.cons.inj heads).1.symm
      subst same
      have restTies : KeepsTies before inside rest others := by
        intro x member
        have whole := ties x member
        cases tie : tied before x a with
        | false => simpa [tie] using whole
        | true => simpa [tie] using whole
      have restSame : rest = others :=
        ih (fun x member => members x (List.mem_cons_of_mem a member))
          (List.Perm.cons_inv perm) firstOrder.tail secondOrder.tail restTies
      rw [restSame]

/-- A list has one arrangement. -/
theorem Arranges.unique (order : IsOrderOn before inside) {items first second : List α}
    (members : ∀ x ∈ items, inside x) (one : Arranges before inside items first)
    (other : Arranges before inside items second) : first = second :=
  eq_of_inOrder order (one.inside_of_mem members) (one.perm.trans other.perm.symm) one.inOrder
    other.inOrder fun x member => (other.ties x member).trans (one.ties x member).symm

end ArgoQuery.Sorting
