import ArgoQuery.Proofs.Sorting.StableRuns
import ArgoQuery.Sorting

/-!
# Sorting is stable

Parting a list at a pivot keeps both parts as they were, and no item of one part is tied with an
item of the other. Main statements: `sort?_arranges`, that a list on which the comparison is an
order is sorted, whatever its length, that is put in order with its ties kept, and
`sort?_eq_of_keepsTies`, that two lists with the same items and ties are sorted to the same list.
-/

namespace ArgoQuery.Sorting

variable {α : Type} {before : α → α → Bool} {inside : α → Prop}

/-- The one in the middle is one of the three. -/
theorem middleOfThree_mem (comesBefore : Nat → Nat → Bool) (a b c : Nat) :
    middleOfThree comesBefore a b c ∈ [a, b, c] := by
  unfold middleOfThree
  dsimp only
  split
  · split <;> simp
  · simp

/-- A place near the middle is one of those that the three ranges hold. -/
theorem nearMiddle_lt (comesBefore : Nat → Nat → Bool) {width a b c total : Nat}
    (positive : 0 < width) (fits : ∀ start ∈ [a, b, c], start + width ≤ total) :
    nearMiddle comesBefore width a b c < total := by
  fun_induction nearMiddle comesBefore width a b c with
  | case1 width a b c wide step among ih =>
    have among_lt (start : Nat) (member : start ∈ [a, b, c]) : among start < total := by
      have := fits start member
      refine ih start (by omega) ?_
      intro place belongs
      simp only [List.mem_cons, List.not_mem_nil, or_false] at belongs
      omega
    have chosen : middleOfThree comesBefore (among a) (among b) (among c) ∈ [a, b, c].map among :=
      middleOfThree_mem comesBefore (among a) (among b) (among c)
    obtain ⟨start, member, same⟩ := List.mem_map.mp chosen
    exact same ▸ among_lt start member
  | case2 width a b c narrow =>
    have := fits _ (middleOfThree_mem comesBefore a b c)
    omega

/-- A list of eight or more items has its pivot. -/
theorem pivotPlace_lt {items : List α} (enough : 8 ≤ items.length) :
    pivotPlace before items < items.length := by
  unfold pivotPlace
  refine nearMiddle_lt _ (by omega) ?_
  intro start member
  simp only [List.mem_cons, List.not_mem_nil, or_false] at member
  omega

/-- If the item at the place goes where it belongs, a list is parted by the test alone. -/
theorem partAt_eq_filter {place : Nat} {pivotGoesLeft : Bool} (belongs : α → Bool)
    {items : List α} {pivot : α} (found : items[place]? = some pivot)
    (goes : belongs pivot = pivotGoesLeft) :
    partAt place pivotGoesLeft belongs items =
      (items.filter belongs, items.filter fun item => !belongs item) := by
  have cut : items = items.take place ++ pivot :: items.drop (place + 1) := by
    obtain ⟨inRange, value⟩ := List.getElem?_eq_some_iff.mp found
    rw [← value, List.getElem_cons_drop, List.take_append_drop]
  have single : (items.drop place).take 1 = [pivot] := by
    obtain ⟨inRange, value⟩ := List.getElem?_eq_some_iff.mp found
    rw [← List.getElem_cons_drop inRange, value]
    rfl
  have parts (test : α → Bool) : items.filter test = (items.take place).filter test ++
      (if test pivot then [pivot] else []) ++ (items.drop (place + 1)).filter test := by
    calc items.filter test
        = (items.take place ++ pivot :: items.drop (place + 1)).filter test := by rw [← cut]
      _ = _ := by
        rw [List.filter_append, List.filter_cons, List.append_assoc]
        split <;> rfl
  rw [partAt, single, parts belongs, parts fun item => !belongs item]
  subst goes
  cases belongs pivot <;> rfl

/-- A list may be parted by a test that tied items pass together. -/
theorem keepsTies_filter {test : α → Bool} {items : List α} (members : ∀ x ∈ items, inside x)
    (respects : ∀ x y, inside x → inside y → tied before x y = true → test x = test y) :
    KeepsTies before inside items (items.filter test ++ items.filter fun item => !test item) := by
  intro x member
  have together (accept : α → Bool)
      (respects : ∀ y, inside y → tied before x y = true → accept y = accept x) :
      (items.filter accept).filter (tied before x) =
        if accept x then items.filter (tied before x) else [] := by
    rw [List.filter_filter]
    split
    · rename_i accepted
      apply List.filter_congr
      intro y y_member
      cases tie : tied before x y with
      | false => rfl
      | true => simp [respects y (members y y_member) tie, accepted]
    · rename_i refused
      rw [List.filter_eq_nil_iff]
      intro y y_member both
      obtain ⟨tie, accepted⟩ := by simpa using both
      rw [respects y (members y y_member) tie] at accepted
      exact refused accepted
  rw [List.filter_append,
    together test fun y y_inside tie => (respects x y member y_inside tie).symm,
    together (fun item => !test item) fun y y_inside tie => by
      simp [respects x y member y_inside tie]]
  cases test x <;> simp

/-- A list is arranged by arranging its two parts under a test that tied items pass together, if no
item that fails the test comes before one that passes it. -/
theorem arranges_append {test : α → Bool} {items left right : List α}
    (members : ∀ x ∈ items, inside x)
    (respects : ∀ x y, inside x → inside y → tied before x y = true → test x = test y)
    (between : ∀ x ∈ items, ∀ y ∈ items, test x = true → test y = false → before y x = false)
    (leftSorted : Arranges before inside (items.filter test) left)
    (rightSorted : Arranges before inside (items.filter fun item => !test item) right) :
    Arranges before inside items (left ++ right) := by
  refine .of_keepsTies (filter_perm test items) (keepsTies_filter members respects) ?_
  refine ⟨leftSorted.perm.append rightSorted.perm, ?_, leftSorted.ties.append rightSorted.ties⟩
  refine List.pairwise_append.mpr ⟨leftSorted.inOrder, rightSorted.inOrder, ?_⟩
  intro x x_left y y_right
  obtain ⟨x_member, x_passes⟩ := List.mem_filter.mp (leftSorted.perm.mem_iff.mp x_left)
  obtain ⟨y_member, y_fails⟩ := List.mem_filter.mp (rightSorted.perm.mem_iff.mp y_right)
  exact between x x_member y y_member x_passes (by simpa using y_fails)

/-- If no item comes before a pivot, then none comes before an item that is at most the pivot. -/
theorem least_of_atMost (order : IsOrderOn before inside) {items : List α} {pivot : α}
    (pivot_inside : inside pivot) (members : ∀ x ∈ items, inside x)
    (noneBefore : ∀ x ∈ items, before x pivot = false) :
    ∀ x ∈ items, ∀ y ∈ items, (!before pivot x) = true → before y x = false := by
  intro x hx y hy atMost
  exact order.transitive (members x hx) pivot_inside (members y hy) (by simpa using atMost)
    (noneBefore y hy)

/-- Sorting by parts arranges a list, if the pivot to its left is at most each of its items. The
induction follows the recursion: the parts of a list are arranged, and `arranges_append` puts them
together.

Where the items that a pivot does not come before are left as they are, they are all tied: none of
them comes before the pivot, since either nothing does or the pivot to the left is tied with it.
What is at most the pivot is then at most every item. -/
theorem sortByParts?_arranges (order : IsOrderOn before inside) (limit : Nat) (bound : Option α)
    (items : List α) (members : ∀ x ∈ items, inside x)
    (bounded : ∀ least ∈ bound, inside least ∧ ∀ x ∈ items, before x least = false) :
    ∃ result, sortByParts? before limit bound items = some result ∧
      Arranges before inside items result := by
  fun_induction sortByParts? before limit bound items with
  | case1 limit bound items short => exact sortShort?_arranges order members
  | case2 bound items long => exact sortByRuns?_arranges order (by simp) items members
  | case3 bound items long limit place missing =>
    have inRange : place < items.length :=
      pivotPlace_lt (by rw [shortLength] at long; omega)
    exact absurd missing (by simp [inRange])
  | case4 bound items long limit place pivot found left right parted equalNext equal greater again
    ih =>
    have pivot_inside : inside pivot := members pivot (List.mem_of_getElem? found)
    have stays : (!before pivot pivot) = true := by simp [order.irreflexive pivot_inside]
    rw [partAt_eq_filter (fun x => before x pivot) found (order.irreflexive pivot_inside)] at parted
    rw [partAt_eq_filter (fun item => !before pivot item) found stays] at again
    obtain ⟨rfl, rfl⟩ := Prod.mk.inj parted
    obtain ⟨rfl, rfl⟩ := Prod.mk.inj again
    have noneBefore : ∀ x ∈ items, before x pivot = false := by
      intro x member
      rcases Bool.or_eq_true_iff.mp equalNext with noneLeft | equalToBound
      · have empty := List.filter_eq_nil_iff.mp (List.isEmpty_iff.mp noneLeft)
        simpa using empty x member
      · obtain ⟨least, isBound, after⟩ := (Option.any_eq_true _ bound).mp equalToBound
        obtain ⟨least_inside, atMost⟩ := bounded least isBound
        exact order.transitive pivot_inside least_inside (members x member) (by simpa using after)
          (atMost x member)
    have greater_inside : ∀ x ∈ items.filter fun x => !!before pivot x, inside x := fun x member =>
      members x (List.mem_filter.mp member).1
    have least := least_of_atMost order pivot_inside members noneBefore
    have equalSorted : Arranges before inside (items.filter fun x => !before pivot x)
        (items.filter fun x => !before pivot x) := by
      refine ⟨.refl _, List.pairwise_of_forall_mem_list fun x hx y hy => ?_, .refl _⟩
      obtain ⟨x_member, atMost⟩ := List.mem_filter.mp hx
      exact least x x_member y (List.mem_filter.mp hy).1 atMost
    obtain ⟨upper, done, upperSorted⟩ := ih greater_inside (by rintro least ⟨⟩)
    refine ⟨_, by rw [done]; rfl, ?_⟩
    exact arranges_append members
      (fun x y hx hy tie => congrArg not (order.before_right_of_tied hx hy pivot_inside tie))
      (fun x hx y hy atMost _ => least x hx y hy atMost) equalSorted upperSorted
  | case5 bound items long limit place pivot found left right parted unequal ih ih' =>
    have pivot_inside : inside pivot := members pivot (List.mem_of_getElem? found)
    rw [partAt_eq_filter (fun x => before x pivot) found (order.irreflexive pivot_inside)] at parted
    obtain ⟨rfl, rfl⟩ := Prod.mk.inj parted
    have left_inside : ∀ x ∈ items.filter (before · pivot), inside x := fun x member =>
      members x (List.mem_filter.mp member).1
    have right_inside : ∀ x ∈ items.filter fun x => !before x pivot, inside x := fun x member =>
      members x (List.mem_filter.mp member).1
    obtain ⟨lower, lowerDone, lowerSorted⟩ := ih left_inside fun least isBound =>
      ⟨(bounded least isBound).1, fun x member =>
        (bounded least isBound).2 x (List.mem_filter.mp member).1⟩
    obtain ⟨upper, upperDone, upperSorted⟩ := ih' right_inside (by
      rintro least ⟨⟩
      exact ⟨pivot_inside, fun x member => by simpa using (List.mem_filter.mp member).2⟩)
    refine ⟨_, by rw [lowerDone, upperDone]; rfl, ?_⟩
    refine arranges_append members
      (fun x y hx hy tie => order.before_left_of_tied hx hy pivot_inside tie) ?_ lowerSorted
      upperSorted
    intro x x_member y y_member first atLeast
    have x_inside := members x x_member
    have y_inside := members y y_member
    exact order.asymmetric x_inside y_inside
      (order.before_of_before_of_atMost x_inside pivot_inside y_inside first atLeast)

/-- A list on which the comparison is an order is sorted: it is put in order and its ties are kept,
whatever its length. Up to 20 items this is insertion, beyond it is sorting by runs, and the runs
that are left unsorted are sorted by parts. -/
theorem sort?_arranges (order : IsOrderOn before inside) : Sorts before inside (sort? before) := by
  intro items members
  unfold sort?
  split
  · exact ⟨_, rfl, insertAll_arranges order (by simp) members List.Pairwise.nil⟩
  · refine sortByRuns?_arranges order ?_ items members
    intro _ part part_inside
    exact sortByParts?_arranges order _ none part part_inside (by simp)

/-- Lists with the same items and ties are sorted to the same list: both are sorted, and there is
only one arrangement. -/
theorem sort?_eq_of_keepsTies (order : IsOrderOn before inside) {items other : List α}
    (members : ∀ x ∈ items, inside x) (perm : other.Perm items)
    (ties : KeepsTies before inside items other) : sort? before other = sort? before items := by
  have otherMembers : ∀ x ∈ other, inside x := fun x member =>
    members x (perm.mem_iff.mp member)
  obtain ⟨result, done, arranged⟩ := sort?_arranges order items members
  obtain ⟨result', done', arranged'⟩ := sort?_arranges order other otherMembers
  rw [done, done', Arranges.unique order members (.of_keepsTies perm ties arranged') arranged]

end ArgoQuery.Sorting
