import ArgoQuery.Proofs.Sorting.StableInsertion

/-!
# Merging is stable

A merge of two lists in order arranges them as one list put after the other. Since there is only one
such arrangement, it does not matter from which end it is made, and both ends never want the same
item. Main statements: `merge_arranges`, and `sortShort?_arranges` for short lists, whose halves are
merged from both ends.
-/

namespace ArgoQuery.Sorting

variable {α : Type} {before : α → α → Bool} {inside : α → Prop}

/-- Merging from the front. An item of the right list is taken only if it comes before the first of
the left list, and then it is tied with no item that it passes. -/
theorem mergeForward_arranges (order : IsOrderOn before inside) {left right : List α}
    (left_inside : ∀ x ∈ left, inside x) (right_inside : ∀ x ∈ right, inside x)
    (leftOrder : InOrder before left) (rightOrder : InOrder before right) :
    Arranges before inside (left ++ right) (mergeForward before left right) := by
  unfold mergeForward
  fun_induction List.merge left right (goesFirst before) with
  | case1 => exact ⟨.refl _, rightOrder, .refl _⟩
  | case2 => exact ⟨by simp, leftOrder, by simpa using KeepsTies.refl _⟩
  | case3 x xs y ys first ih =>
    have after : before y x = false := by simpa [goesFirst] using first
    have arranged := ih (fun z member => left_inside z (List.mem_cons_of_mem x member)) right_inside
      leftOrder.tail rightOrder
    refine ⟨arranged.perm.cons x, List.pairwise_cons.mpr ⟨?_, arranged.inOrder⟩,
      arranged.ties.cons x⟩
    intro z member
    rcases List.mem_append.mp (arranged.perm.mem_iff.mp member) with of_left | of_right
    · exact List.rel_of_pairwise_cons leftOrder of_left
    · rcases List.mem_cons.mp of_right with rfl | later
      · exact after
      · exact order.transitive (left_inside x List.mem_cons_self)
          (right_inside y List.mem_cons_self) (right_inside z of_right) after
          (List.rel_of_pairwise_cons rightOrder later)
  | case4 x xs y ys notFirst ih =>
    have first : before y x = true := by simpa [goesFirst] using notFirst
    have y_inside : inside y := right_inside y List.mem_cons_self
    have arranged := ih left_inside (fun z member => right_inside z (List.mem_cons_of_mem y member))
      leftOrder rightOrder.tail
    have passed : ∀ z ∈ x :: xs, before y z = true := by
      intro z member
      rcases List.mem_cons.mp member with rfl | later
      · exact first
      · exact order.before_of_before_of_atMost y_inside (left_inside x List.mem_cons_self)
          (left_inside z member) first (List.rel_of_pairwise_cons leftOrder later)
    have moved : KeepsTies before inside ((x :: xs) ++ [y]) ([y] ++ (x :: xs)) :=
      .swap order left_inside (by simpa using y_inside) (by
        intro z member w single
        rw [List.mem_singleton.mp single, tied_comm]
        exact tied_eq_false_of_before (passed z member))
    refine ⟨(arranged.perm.cons y).trans List.perm_middle.symm,
      List.pairwise_cons.mpr ⟨?_, arranged.inOrder⟩, ?_⟩
    · intro z member
      rcases List.mem_append.mp (arranged.perm.mem_iff.mp member) with of_left | of_right
      · exact order.asymmetric y_inside (left_inside z of_left) (passed z of_left)
      · exact List.rel_of_pairwise_cons rightOrder of_right
    · have moved' := moved.append (.refl ys)
      rw [List.append_assoc] at moved'
      exact moved'.trans (arranged.ties.cons y)

/-- Merging from the back is merging the reversed lists from the front, with the comparison read
backwards. -/
theorem mergeBackward_eq_reverse (left right : List α) :
    mergeBackward before left right =
      (mergeForward (fun x y => before y x) right.reverse left.reverse).reverse := rfl

/-- Merging from the back. It is in order and keeps ties because the merge from the front of the
reversed lists does. -/
theorem mergeBackward_arranges (order : IsOrderOn before inside) {left right : List α}
    (left_inside : ∀ x ∈ left, inside x) (right_inside : ∀ x ∈ right, inside x)
    (leftOrder : InOrder before left) (rightOrder : InOrder before right) :
    Arranges before inside (left ++ right) (mergeBackward before left right) := by
  have arranged := mergeForward_arranges order.flip
    (fun x member => right_inside x (List.mem_reverse.mp member))
    (fun x member => left_inside x (List.mem_reverse.mp member))
    (inOrder_flip.mpr (by simpa using rightOrder)) (inOrder_flip.mpr (by simpa using leftOrder))
  rw [mergeBackward_eq_reverse]
  refine ⟨mergeBackward_perm before left right, inOrder_flip.mp arranged.inOrder, ?_⟩
  have ties := arranged.ties
  rw [KeepsTies, tied_flip] at ties
  simpa using KeepsTies.reverse ties

/-- It does not matter from which end a merge is made. -/
theorem mergeBackward_eq_mergeForward (order : IsOrderOn before inside) {left right : List α}
    (left_inside : ∀ x ∈ left, inside x) (right_inside : ∀ x ∈ right, inside x)
    (leftOrder : InOrder before left) (rightOrder : InOrder before right) :
    mergeBackward before left right = mergeForward before left right := by
  refine Arranges.unique order ?_
    (mergeBackward_arranges order left_inside right_inside leftOrder rightOrder)
    (mergeForward_arranges order left_inside right_inside leftOrder rightOrder)
  intro x member
  exact (List.mem_append.mp member).elim (left_inside x) (right_inside x)

/-- Merging from the end of the shorter list. -/
theorem merge_arranges (order : IsOrderOn before inside) {left right : List α}
    (left_inside : ∀ x ∈ left, inside x) (right_inside : ∀ x ∈ right, inside x)
    (leftOrder : InOrder before left) (rightOrder : InOrder before right) :
    Arranges before inside (left ++ right) (merge before left right) := by
  rw [merge]
  split
  · exact mergeForward_arranges order left_inside right_inside leftOrder rightOrder
  · exact mergeBackward_arranges order left_inside right_inside leftOrder rightOrder

/-- As long as neither list can run out, steps of a merge take the start of the merged list. -/
theorem mergeSteps_eq_take (first : α → α → Bool) (count : Nat) (left right : List α)
    (enoughLeft : count ≤ left.length) (enoughRight : count ≤ right.length) :
    (mergeSteps first count left right).1 = (left.merge right first).take count := by
  fun_induction mergeSteps first count left right with
  | case1 count x xs y ys goes taken rest heq ih =>
    simp only [List.length_cons] at enoughLeft enoughRight
    have same := ih (by omega) (by simp only [List.length_cons]; omega)
    rw [heq] at same
    rw [List.cons_merge_cons, if_pos goes, List.take_succ_cons, ← same]
  | case2 count x xs y ys stays taken rest heq ih =>
    simp only [List.length_cons] at enoughLeft enoughRight
    have same := ih (by simp only [List.length_cons]; omega) (by omega)
    rw [heq] at same
    rw [List.cons_merge_cons, if_neg stays, List.take_succ_cons, ← same]
  | case3 count left right unmatched =>
    cases count with
    | zero => simp
    | succ count =>
      cases left with
      | nil => simp at enoughLeft
      | cons x xs =>
        cases right with
        | nil => simp at enoughRight
        | cons y ys => exact absurd rfl (unmatched count x xs y ys rfl rfl)

/-- A permutation of a list that has its start and its end, with at most one item between them, is
that list. -/
theorem eq_of_perm_of_ends {whole front middle back : List α}
    (perm : (front ++ middle ++ back).Perm whole) (start : front = whole.take front.length)
    (finish : back = whole.drop (whole.length - back.length))
    (size : whole.length ≤ front.length + back.length + 1) : front ++ middle ++ back = whole := by
  have length := perm.length_eq
  simp only [List.length_append] at length
  have between : whole = front ++ (whole.drop front.length).take middle.length ++ back := by
    have rest : back = (whole.drop front.length).drop middle.length := by
      rw [List.drop_drop, show front.length + middle.length = whole.length - back.length by omega]
      exact finish
    calc whole = whole.take front.length ++ whole.drop front.length :=
          (List.take_append_drop _ _).symm
      _ = front ++ ((whole.drop front.length).take middle.length ++
            (whole.drop front.length).drop middle.length) := by
          rw [← start, List.take_append_drop]
      _ = _ := by rw [← rest, List.append_assoc]
  rw [between] at perm
  have middlePerm :=
    (List.perm_append_left_iff front).mp ((List.perm_append_right_iff back).mp perm)
  have same : middle = (whole.drop front.length).take middle.length := by
    cases middle with
    | nil => simp
    | cons item others =>
      have single : others = [] := List.eq_nil_of_length_eq_zero (by
        simp only [List.length_cons] at length
        omega)
      subst single
      exact (List.perm_singleton.mp middlePerm.symm).symm
  rw [← same] at between
  exact between.symm

/-- Lists in order ascend: what goes before an item goes before all that follow it. -/
theorem ascends_of_inOrder (order : IsOrderOn before inside) {left right : List α}
    (left_inside : ∀ x ∈ left, inside x) (right_inside : ∀ x ∈ right, inside x)
    (leftOrder : InOrder before left) (rightOrder : InOrder before right) :
    Ascends (goesFirst before) left right where
  earlier := by
    refine List.Pairwise.imp_of_mem ?_ leftOrder
    intro x x' hx hx' atMost y hy first
    simp only [goesFirst, Bool.not_eq_true'] at first ⊢
    exact order.transitive (left_inside x hx) (left_inside x' hx') (right_inside y hy) atMost first
  later := by
    refine List.Pairwise.imp_of_mem ?_ rightOrder
    intro y y' hy hy' atMost x hx first
    simp only [goesFirst, Bool.not_eq_true'] at first ⊢
    exact order.transitive (left_inside x hx) (right_inside y hy) (right_inside y' hy') first atMost

/-- If two fronts of a list, the second taken from its other end, are longer than the list, they
share an item. -/
theorem exists_mem_of_overlap {whole front behind back ahead : List α}
    (hfront : whole = front ++ behind) (hback : whole.reverse = back ++ ahead)
    (overlap : whole.length < front.length + back.length) : ∃ x ∈ front, x ∈ back := by
  have size : whole.length = back.length + ahead.length := by
    simpa using congrArg List.length hback
  have ends : front ++ behind = ahead.reverse ++ back.reverse := by
    rw [← hfront, ← List.reverse_append, ← hback, List.reverse_reverse]
  have shared : ahead.length < front.length := by omega
  have same : front[ahead.length]? = back.reverse[0]? := by
    calc front[ahead.length]?
        = (front ++ behind)[ahead.length]? := (List.getElem?_append_left shared).symm
      _ = (ahead.reverse ++ back.reverse)[ahead.length]? := by rw [ends]
      _ = back.reverse[0]? := by
        rw [List.getElem?_append_right (Nat.le_of_eq List.length_reverse),
          List.length_reverse, Nat.sub_self]
  rw [List.getElem?_eq_getElem shared] at same
  exact ⟨_, List.getElem_mem shared, List.mem_reverse.mp (List.mem_of_getElem? same.symm)⟩

/-- If two fronts of a list, the second taken from its other end, are shorter than the list, what
they leave shares an item. -/
theorem exists_mem_of_gap {whole front behind back ahead : List α}
    (hfront : whole = front ++ behind) (hback : whole.reverse = back ++ ahead)
    (gap : front.length + back.length < whole.length) : ∃ x ∈ behind, x ∈ ahead := by
  have size := congrArg List.length hfront
  have size' := congrArg List.length hback
  simp only [List.length_append, List.length_reverse] at size size'
  have fromBehind : whole.reverse = behind.reverse ++ front.reverse := by
    rw [hfront, List.reverse_append]
  have fromAhead : whole.reverse.reverse = ahead.reverse ++ back.reverse := by
    rw [hback, List.reverse_append]
  obtain ⟨x, x_behind, x_ahead⟩ := exists_mem_of_overlap fromBehind fromAhead (by
    simp only [List.length_reverse]
    omega)
  exact ⟨x, List.mem_reverse.mp x_behind, List.mem_reverse.mp x_ahead⟩

/-- Lists in order are merged from both ends without the ends meeting.

Suppose both ends took an item of one list. Together they take at most as many items as there are,
so they leave an item of the other list. The one end found that the item it took goes before the one
that is left, and the other end found that it does not. -/
theorem mergeEnds?_isSome (order : IsOrderOn before inside) {left right : List α}
    (left_inside : ∀ x ∈ left, inside x) (right_inside : ∀ x ∈ right, inside x)
    (leftOrder : InOrder before left) (rightOrder : InOrder before right) :
    (mergeEnds? before left right).isSome = true := by
  unfold mergeEnds?
  dsimp only
  obtain ⟨frontLeft, frontRight, hleft, hright, -, few, apart⟩ :=
    mergeSteps_taken (goesFirst before) ((left.length + right.length) / 2) left right
  obtain ⟨backRight, backLeft, hright', hleft', -, few', apart'⟩ :=
    mergeSteps_taken (fun right left => goesFirst before left right)
      ((left.length + right.length) / 2) right.reverse left.reverse
  obtain ⟨leftFirst, rightFirst⟩ :=
    apart (ascends_of_inOrder order left_inside right_inside leftOrder rightOrder)
  obtain ⟨rightLast, leftLast⟩ := apart' (ascends_of_inOrder order.flip
    (fun x member => right_inside x (List.mem_reverse.mp member))
    (fun x member => left_inside x (List.mem_reverse.mp member))
    (inOrder_flip.mpr (by simpa using rightOrder)) (inOrder_flip.mpr (by simpa using leftOrder)))
  generalize mergeSteps (goesFirst before) ((left.length + right.length) / 2) left right =
    forward at hleft hright leftFirst rightFirst ⊢
  generalize mergeSteps (fun right left => goesFirst before left right)
    ((left.length + right.length) / 2) right.reverse left.reverse =
    backward at hleft' hright' leftLast rightLast ⊢
  obtain ⟨front, leftBehind, rightBehind⟩ := forward
  obtain ⟨back, rightAhead, leftAhead⟩ := backward
  dsimp only at hleft hright hleft' hright' leftFirst rightFirst leftLast rightLast ⊢
  have leftSize := congrArg List.length hleft
  have rightSize := congrArg List.length hright
  have leftSize' := congrArg List.length hleft'
  have rightSize' := congrArg List.length hright'
  simp only [List.length_append, List.length_reverse] at leftSize rightSize leftSize' rightSize'
  have leftApart : frontLeft.length + backLeft.length ≤ left.length := by
    refine Nat.le_of_not_lt fun overlap => ?_
    obtain ⟨x, x_front, x_back⟩ := exists_mem_of_overlap hleft hleft' (by omega)
    obtain ⟨y, y_behind, y_ahead⟩ := exists_mem_of_gap hright hright' (by omega)
    exact absurd (leftFirst x x_front y y_behind) (by simp [leftLast y y_ahead x x_back])
  have rightApart : frontRight.length + backRight.length ≤ right.length := by
    refine Nat.le_of_not_lt fun overlap => ?_
    obtain ⟨y, y_front, y_back⟩ := exists_mem_of_overlap hright hright' (by omega)
    obtain ⟨x, x_behind, x_ahead⟩ := exists_mem_of_gap hleft hleft' (by omega)
    exact absurd (rightLast y y_back x x_ahead) (by simp [rightFirst x x_behind y y_front])
  rw [if_pos ⟨by omega, by omega⟩]
  rfl

/-- A merge from both ends is the merge from the front if either list holds half of the items.

Both halves are taken from the one arrangement there is, and at most one item lies between them. -/
theorem mergeEnds?_eq_mergeForward (order : IsOrderOn before inside) {left right : List α}
    (left_inside : ∀ x ∈ left, inside x) (right_inside : ∀ x ∈ right, inside x)
    (leftOrder : InOrder before left) (rightOrder : InOrder before right)
    (enoughLeft : (left.length + right.length) / 2 ≤ left.length)
    (enoughRight : (left.length + right.length) / 2 ≤ right.length) :
    mergeEnds? before left right = some (mergeForward before left right) := by
  obtain ⟨merged, done⟩ := Option.isSome_iff_exists.mp
    (mergeEnds?_isSome order left_inside right_inside leftOrder rightOrder)
  have perm := (mergeEnds?_perm before done).trans (mergeForward_perm before left right).symm
  have size : (mergeForward before left right).length = left.length + right.length := by
    simpa using (mergeForward_perm before left right).length_eq
  have front := mergeSteps_eq_take (goesFirst before) _ left right enoughLeft enoughRight
  have back := mergeSteps_eq_take (fun right left => goesFirst before left right)
    ((left.length + right.length) / 2) right.reverse left.reverse (by simpa) (by simpa)
  have backward : right.reverse.merge left.reverse (fun right left => goesFirst before left right) =
      (mergeForward before left right).reverse := by
    rw [← mergeBackward_eq_mergeForward order left_inside right_inside leftOrder rightOrder,
      mergeBackward, List.reverse_reverse]
  rw [backward] at back
  change _ = (mergeForward before left right).take _ at front
  rw [done]
  refine congrArg some ?_
  unfold mergeEnds? at done
  dsimp only at done
  split at done
  · obtain rfl := Option.some.inj done
    refine eq_of_perm_of_ends perm ?_ ?_ ?_
    · rw [front, List.length_take, Nat.min_eq_left (by omega)]
    · rw [back, List.length_reverse, List.length_take, List.length_reverse,
        Nat.min_eq_left (by omega), List.take_reverse, List.reverse_reverse]
    · rw [front, back, List.length_reverse, List.length_take, List.length_take,
        List.length_reverse, Nat.min_eq_left (by omega)]
      omega
  · cases done

/-- Either half of a short list is put in order. -/
theorem sortHalf_arranges (order : IsOrderOn before inside) (isWide : Bool) {items : List α}
    (members : ∀ x ∈ items, inside x) :
    Arranges before inside items (sortHalf before isWide items) := by
  have inserted : Arranges before inside items (insertAll before [] items) :=
    insertAll_arranges order (by simp) members List.Pairwise.nil
  unfold sortHalf
  split
  · rename_i a b c d rest
    split
    · have four_inside : ∀ x ∈ [a, b, c, d], inside x := fun x member =>
        members x (List.mem_append_left rest member)
      have four := orderFour_arranges order four_inside
      refine .of_keepsTies (four.perm.append_right rest) (four.ties.append (.refl rest)) ?_
      exact insertAll_arranges order (four.inside_of_mem four_inside)
        (fun x member => members x (List.mem_append_right [a, b, c, d] member)) four.inOrder
    · exact inserted
  · exact inserted

/-- A short list on which the comparison is an order is put in order. -/
theorem sortShort?_arranges (order : IsOrderOn before inside) {items : List α}
    (members : ∀ x ∈ items, inside x) :
    ∃ result, sortShort? before items = some result ∧ Arranges before inside items result := by
  have left_inside : ∀ x ∈ items.take (items.length / 2), inside x := fun x member =>
    members x (List.mem_of_mem_take member)
  have right_inside : ∀ x ∈ items.drop (items.length / 2), inside x := fun x member =>
    members x (List.mem_of_mem_drop member)
  have left := sortHalf_arranges order (decide (8 ≤ items.length)) left_inside
  have right := sortHalf_arranges order (decide (8 ≤ items.length)) right_inside
  have leftLength := left.perm.length_eq
  have rightLength := right.perm.length_eq
  rw [List.length_take] at leftLength
  rw [List.length_drop] at rightLength
  have merged := mergeForward_arranges order (left.inside_of_mem left_inside)
    (right.inside_of_mem right_inside) left.inOrder right.inOrder
  refine ⟨_, ?_, .of_keepsTies ?_ ?_ merged⟩
  · rw [sortShort?, List.splitAt_eq]
    exact mergeEnds?_eq_mergeForward order (left.inside_of_mem left_inside)
      (right.inside_of_mem right_inside) left.inOrder right.inOrder (by omega) (by omega)
  · simpa using left.perm.append right.perm
  · simpa using left.ties.append right.ties

end ArgoQuery.Sorting
