import ArgoQuery.Proofs.Sorting.StableOrder
import ArgoQuery.Proofs.Sorting.Permutation

/-!
# Insertion is stable

An item is moved past the items that it comes before and past no other, so it is never moved past
one that it is tied with. Main statements: `insertAll_arranges` for insertion into a list that is in
order already, and `orderFour_arranges` for four items ordered with five comparisons.
-/

namespace ArgoQuery.Sorting

variable {α : Type} {before : α → α → Bool} {inside : α → Prop}

/-- Items that are held last first stay in order when one is placed among them. -/
theorem place_inOrder (order : IsOrderOn before inside) {item : α} {placed : List α}
    (item_inside : inside item) (members : ∀ x ∈ placed, inside x)
    (sorted : InOrder (fun x y => before y x) placed) :
    InOrder (fun x y => before y x) (place before item placed) := by
  induction placed with
  | nil => exact List.pairwise_singleton _ item
  | cons last rest ih =>
    have last_inside : inside last := members last List.mem_cons_self
    have rest_inside : ∀ x ∈ rest, inside x := fun x member =>
      members x (List.mem_cons_of_mem last member)
    rw [place]
    split
    · rename_i first
      refine List.pairwise_cons.mpr ⟨?_, ih rest_inside sorted.tail⟩
      intro y member
      rcases List.mem_cons.mp ((place_perm before item rest).mem_iff.mp member) with rfl | earlier
      · exact order.asymmetric item_inside last_inside first
      · exact List.rel_of_pairwise_cons sorted earlier
    · rename_i notFirst
      have after : before item last = false := by simpa using notFirst
      refine List.pairwise_cons.mpr ⟨?_, sorted⟩
      intro y member
      rcases List.mem_cons.mp member with rfl | earlier
      · exact after
      · exact order.transitive (rest_inside y earlier) last_inside item_inside
          (List.rel_of_pairwise_cons sorted earlier) after

/-- An item passes only items that come before it, so no tie changes its order. -/
theorem place_keepsTies (order : IsOrderOn before inside) {item : α} {placed : List α}
    (item_inside : inside item) (members : ∀ x ∈ placed, inside x) :
    KeepsTies before inside (item :: placed) (place before item placed) := by
  induction placed with
  | nil => exact .refl _
  | cons last rest ih =>
    rw [place]
    split
    · rename_i first
      have moved : KeepsTies before inside ([item] ++ [last]) ([last] ++ [item]) :=
        .swap order (by simpa using item_inside) (by simpa using members last List.mem_cons_self)
          (by simpa using tied_eq_false_of_before first)
      have rest_inside : ∀ x ∈ rest, inside x := fun x member =>
        members x (List.mem_cons_of_mem last member)
      exact (moved.append (.refl rest)).trans ((ih rest_inside).cons last)
    · exact .refl _

/-- Placing items one after the other, on the reversed list that is held. -/
theorem foldl_place (order : IsOrderOn before inside) {items placed : List α}
    (items_inside : ∀ x ∈ items, inside x) (members : ∀ x ∈ placed, inside x)
    (sorted : InOrder (fun x y => before y x) placed) :
    InOrder (fun x y => before y x)
        (items.foldl (fun placed item => place before item placed) placed) ∧
      KeepsTies before inside (items.reverse ++ placed)
        (items.foldl (fun placed item => place before item placed) placed) := by
  induction items generalizing placed with
  | nil => exact ⟨sorted, .refl _⟩
  | cons item rest ih =>
    have item_inside : inside item := items_inside item List.mem_cons_self
    have placed_inside : ∀ x ∈ place before item placed, inside x := by
      intro x member
      rcases List.mem_cons.mp ((place_perm before item placed).mem_iff.mp member) with rfl | held
      · exact item_inside
      · exact members x held
    obtain ⟨inOrder, ties⟩ := ih (fun x member => items_inside x (List.mem_cons_of_mem item member))
      placed_inside (place_inOrder order item_inside members sorted)
    refine ⟨inOrder, ?_⟩
    rw [List.reverse_cons, List.append_assoc]
    exact (KeepsTies.append (.refl rest.reverse) (place_keepsTies order item_inside members)).trans
      ties

/-- Items are inserted behind those that they are tied with. -/
theorem insertAll_arranges (order : IsOrderOn before inside) {sorted items : List α}
    (sorted_inside : ∀ x ∈ sorted, inside x) (items_inside : ∀ x ∈ items, inside x)
    (inOrder : InOrder before sorted) :
    Arranges before inside (sorted ++ items) (insertAll before sorted items) := by
  have held : InOrder (fun x y => before y x) sorted.reverse := by
    rw [inOrder_flip, List.reverse_reverse]
    exact inOrder
  obtain ⟨heldOrder, ties⟩ := foldl_place order items_inside
    (fun x member => sorted_inside x (List.mem_reverse.mp member)) held
  exact {
    perm := insertAll_perm before sorted items
    inOrder := inOrder_flip.mp heldOrder
    ties := by simpa [insertAll] using ties.reverse }

/-- Two items are ordered with one comparison. -/
theorem orderPair_arranges (order : IsOrderOn before inside) {first second : α}
    (first_inside : inside first) (second_inside : inside second) :
    Arranges before inside [first, second]
      [(orderPair before first second).1, (orderPair before first second).2] where
  perm := orderPair_perm before first second
  inOrder := by
    rw [orderPair]
    split
    · rename_i swapped
      simpa [InOrder] using order.asymmetric second_inside first_inside swapped
    · rename_i kept
      simpa [InOrder] using kept
  ties := by
    rw [orderPair]
    split
    · rename_i swapped
      have untied : tied before first second = false := by
        rw [tied_comm]
        exact tied_eq_false_of_before swapped
      have moved : KeepsTies before inside ([first] ++ [second]) ([second] ++ [first]) :=
        .swap order (by simpa) (by simpa) (by simpa)
      exact moved
    · exact .refl _

/-- The two items between a least and a greatest one are ordered last. -/
theorem orderMiddle_arranges (order : IsOrderOn before inside) {least left right greatest : α}
    (members : ∀ x ∈ [least, left, right, greatest], inside x)
    (fromLeast : before left least = false ∧ before right least = false)
    (toGreatest : before greatest left = false ∧ before greatest right = false) :
    Arranges before inside [least, left, right, greatest]
      [least, (orderPair before left right).1, (orderPair before left right).2, greatest] := by
  simp only [List.forall_mem_cons] at members
  obtain ⟨least_inside, left_inside, right_inside, greatest_inside, -⟩ := members
  have middle := orderPair_arranges order left_inside right_inside
  have ends : before greatest least = false :=
    order.transitive least_inside left_inside greatest_inside fromLeast.1 toGreatest.1
  refine ⟨orderMiddle_perm before least left right greatest, ?_,
    (middle.ties.append (.refl [greatest])).cons least⟩
  have middleOrder := middle.inOrder
  rw [orderPair] at middleOrder ⊢
  split at middleOrder <;> simp_all [InOrder]

/-- What comes before the first of a pair in order comes before the other as well, so it can pass
both. -/
theorem keepsTies_passPair (order : IsOrderOn before inside) {a b c : α} (ha : inside a)
    (hb : inside b) (hc : inside c) (ordered : before b a = false) (first : before c a = true) :
    before c b = true ∧ KeepsTies before inside ([a, b] ++ [c]) ([c] ++ [a, b]) := by
  have passed : before c b = true := order.before_of_before_of_atMost hc ha hb first ordered
  refine ⟨passed, .swap order (by simp [ha, hb]) (by simpa) ?_⟩
  simp [tied_comm _ c, tied_eq_false_of_before passed, tied_eq_false_of_before first]

/-- Four items are ordered with five comparisons.

Both pairs are in order, so what is at most the first of both is the least of all, and what the
last of both is at most is the greatest. Either passes only items that it is known not to be tied
with. What remains is to order the middle of a list that keeps the ties of both pairs together. -/
theorem orderFour_arranges (order : IsOrderOn before inside) {a b c d : α}
    (members : ∀ x ∈ [a, b, c, d], inside x) :
    Arranges before inside [a, b, c, d] (orderFour before a b c d) := by
  obtain ⟨ha, hb, hc, hd, -⟩ := by simpa only [List.forall_mem_cons] using members
  have one := orderPair_arranges order ha hb
  have other := orderPair_arranges order hc hd
  have ties := one.ties.append other.ties
  have perm := one.perm.append other.perm
  unfold orderFour
  generalize orderPair before a b = p at one ties perm ⊢
  generalize orderPair before c d = q at other ties perm ⊢
  obtain ⟨a', b'⟩ := p
  obtain ⟨c', d'⟩ := q
  simp only [List.cons_append, List.nil_append] at ties perm ⊢
  have ordered : before b' a' = false := by simpa [InOrder] using one.inOrder
  have ordered' : before d' c' = false := by simpa [InOrder] using other.inOrder
  obtain ⟨ha', hb', hc', hd', -⟩ : inside a' ∧ inside b' ∧ inside c' ∧ inside d' ∧ _ := by
    simpa only [List.forall_mem_cons] using fun x member => members x (perm.mem_iff.mp member)
  suffices middle : ∀ least left right greatest,
      [least, left, right, greatest].Perm [a', b', c', d'] →
      KeepsTies before inside [a', b', c', d'] [least, left, right, greatest] →
      before left least = false ∧ before right least = false →
      before greatest left = false ∧ before greatest right = false →
      Arranges before inside [a, b, c, d]
        [least, (orderPair before left right).1, (orderPair before left right).2, greatest] by
    split
    · rename_i first last
      exact middle a' b' c' d' (.refl _) (.refl _) ⟨ordered, first⟩ ⟨last, ordered'⟩
    · rename_i first last
      have passed : before c' b' = true :=
        order.before_of_atMost_of_before hc' hd' hb' ordered' last
      have moved : KeepsTies before inside ([b'] ++ [c', d']) ([c', d'] ++ [b']) :=
        .swap order (by simpa) (by simp [hc', hd']) (by
          simp [tied_comm b', tied_eq_false_of_before passed, tied_eq_false_of_before last])
      exact middle a' c' d' b' ((@List.perm_append_comm _ [c', d'] [b']).cons a') (moved.cons a')
        ⟨first, order.transitive ha' hc' hd' first ordered'⟩
        ⟨order.asymmetric hc' hb' passed, order.asymmetric hd' hb' last⟩
    · rename_i first last
      obtain ⟨passed, moved⟩ := keepsTies_passPair order ha' hb' hc' ordered first
      exact middle c' a' b' d' ((@List.perm_append_comm _ [c'] [a', b']).append_right [d'])
        (moved.append (.refl [d']))
        ⟨order.asymmetric hc' ha' first, order.asymmetric hc' hb' passed⟩
        ⟨order.transitive ha' hb' hd' ordered last, last⟩
    · rename_i first last
      obtain ⟨-, moved⟩ := keepsTies_passPair order ha' hb' hc' ordered first
      have moved' : KeepsTies before inside ([b'] ++ [d']) ([d'] ++ [b']) :=
        .swap order (by simpa) (by simpa) (by simp [tied_comm b', tied_eq_false_of_before last])
      exact middle c' a' d' b'
        ((((List.Perm.swap b' d' []).cons a').cons c').trans
          ((@List.perm_append_comm _ [c'] [a', b']).append_right [d']))
        ((moved.append (.refl [d'])).trans ((moved'.cons a').cons c'))
        ⟨order.asymmetric hc' ha' first, ordered'⟩ ⟨ordered, order.asymmetric hd' hb' last⟩
  intro least left right greatest perm' ties' fromLeast toGreatest
  have arranged := orderMiddle_arranges order (fun x member =>
    members x ((perm'.trans perm).mem_iff.mp member)) fromLeast toGreatest
  exact ⟨arranged.perm.trans (perm'.trans perm), arranged.inOrder,
    (ties.trans ties').trans arranged.ties⟩

end ArgoQuery.Sorting
