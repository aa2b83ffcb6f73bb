import ArgoQuery.Sorting

/-!
# What sorting keeps

Every step of sorting arranges items anew and neither drops nor repeats one. Main statement:
`sort?_perm`, that a sorted list is a permutation of the list, whatever the comparison says. Nothing
is asked of the comparison, so it holds of one that contradicts itself as well, as long as that is
not noticed.
-/

namespace ArgoQuery.Sorting

variable {α : Type} (before : α → α → Bool)

/-- Placing an item adds it to the items that are placed already. -/
theorem place_perm (item : α) (placed : List α) :
    (place before item placed).Perm (item :: placed) := by
  induction placed with
  | nil => exact .refl _
  | cons last rest ih =>
    rw [place]
    split
    · exact (ih.cons last).trans (.swap item last rest)
    · exact .refl _

/-- Inserting items adds all of them to the sorted ones, by induction on the items. -/
theorem insertAll_perm (sorted items : List α) :
    (insertAll before sorted items).Perm (sorted ++ items) := by
  have step (placed : List α) :
      (items.foldl (fun placed item => place before item placed) placed).Perm
        (placed ++ items) := by
    induction items generalizing placed with
    | nil => simp
    | cons item rest ih =>
      refine (ih _).trans ?_
      exact ((place_perm before item placed).append_right rest).trans List.perm_middle.symm
  exact (List.reverse_perm _).trans ((step _).trans ((List.reverse_perm sorted).append_right items))

/-- Ordering a pair at most swaps it. -/
theorem orderPair_perm (first second : α) :
    [(orderPair before first second).1, (orderPair before first second).2].Perm
      [first, second] := by
  rw [orderPair]
  split
  · exact .swap first second []
  · exact .refl _

/-- Ordering the two items between others keeps all of them. -/
theorem orderMiddle_perm (least left right greatest : α) :
    [least, (orderPair before left right).1, (orderPair before left right).2, greatest].Perm
      [least, left, right, greatest] :=
  ((orderPair_perm before left right).append_right [greatest]).cons least

/-- Ordering four items keeps them. Both pairs are swapped at most, and so are, in each of the four
outcomes of the comparisons between them, the two items in the middle. -/
theorem orderFour_perm (a b c d : α) : (orderFour before a b c d).Perm [a, b, c, d] := by
  unfold orderFour
  have first := orderPair_perm before a b
  have second := orderPair_perm before c d
  generalize orderPair before a b = p at first ⊢
  generalize orderPair before c d = q at second ⊢
  refine List.Perm.trans ?_ (first.append second)
  obtain ⟨p1, p2⟩ := p
  obtain ⟨q1, q2⟩ := q
  dsimp only
  split <;> refine (orderMiddle_perm before _ _ _ _).trans ?_
  · exact .refl _
  · exact (@List.perm_append_comm _ [q1, q2] [p2]).cons p1
  · exact (@List.perm_middle _ q1 [p1, p2] [q2]).symm
  · exact (List.Perm.swap p1 q1 _).trans
      ((@List.perm_append_comm _ [q1, q2] [p2]).cons p1)

/-- A merge from the front keeps the items of both lists. -/
theorem mergeForward_perm (left right : List α) :
    (mergeForward before left right).Perm (left ++ right) :=
  List.merge_perm_append _

/-- A merge from the back keeps the items of both lists. -/
theorem mergeBackward_perm (left right : List α) :
    (mergeBackward before left right).Perm (left ++ right) := by
  refine (List.reverse_perm _).trans ((List.merge_perm_append _).trans ?_)
  exact List.perm_append_comm.trans ((List.reverse_perm left).append (List.reverse_perm right))

/-- A merge from the end of the shorter list keeps the items of both. -/
theorem merge_perm (left right : List α) : (merge before left right).Perm (left ++ right) := by
  rw [merge]
  split
  · exact mergeForward_perm before left right
  · exact mergeBackward_perm before left right

/-- Whether it can be read off the first items of two lists which of their items goes first: what
goes before an item goes before all that follow it, and what follows an item goes behind all that it
goes behind. -/
structure Ascends (first : α → α → Bool) (left right : List α) : Prop where
  earlier : left.Pairwise fun x x' => ∀ y ∈ right, first x' y = true → first x y = true
  later : right.Pairwise fun y y' => ∀ x ∈ left, first x y = true → first x y' = true

/-- What steps of a merge take is the front of either list. If the lists ascend, what is taken from
one of them goes before all that is left of the other: it went before the first of these when it was
taken. -/
theorem mergeSteps_taken (first : α → α → Bool) (count : Nat) (left right : List α) :
    ∃ fromLeft fromRight, left = fromLeft ++ (mergeSteps first count left right).2.1 ∧
      right = fromRight ++ (mergeSteps first count left right).2.2 ∧
      (mergeSteps first count left right).1.Perm (fromLeft ++ fromRight) ∧
      fromLeft.length + fromRight.length ≤ count ∧
      (Ascends first left right →
        (∀ x ∈ fromLeft, ∀ y ∈ (mergeSteps first count left right).2.2, first x y = true) ∧
        ∀ x ∈ (mergeSteps first count left right).2.1, ∀ y ∈ fromRight, first x y = false) := by
  fun_induction mergeSteps first count left right with
  | case1 count x xs y ys goes taken rest heq ih =>
    obtain ⟨fromLeft, fromRight, hleft, hright, perm, few, apart⟩ := ih
    rw [heq] at hleft hright perm apart
    refine ⟨x :: fromLeft, fromRight, by simpa using hleft, hright, perm.cons x, ?_, ?_⟩
    · simp only [List.length_cons]
      omega
    · intro ascends
      obtain ⟨before, behind⟩ := apart ⟨ascends.earlier.tail,
        ascends.later.imp fun later x member => later x (List.mem_cons_of_mem _ member)⟩
      refine ⟨?_, behind⟩
      intro z z_taken w w_left
      rcases List.mem_cons.mp z_taken with rfl | earlier
      · have w_right : w ∈ y :: ys := hright ▸ List.mem_append_right fromRight w_left
        rcases List.mem_cons.mp w_right with rfl | later
        · exact goes
        · exact List.rel_of_pairwise_cons ascends.later later z List.mem_cons_self goes
      · exact before z earlier w w_left
  | case2 count x xs y ys stays taken rest heq ih =>
    obtain ⟨fromLeft, fromRight, hleft, hright, perm, few, apart⟩ := ih
    rw [heq] at hleft hright perm apart
    refine ⟨fromLeft, y :: fromRight, hleft, by simpa using hright,
      (perm.cons y).trans List.perm_middle.symm, ?_, ?_⟩
    · simp only [List.length_cons]
      omega
    · intro ascends
      obtain ⟨before, behind⟩ := apart ⟨ascends.earlier.imp fun later w member =>
        later w (List.mem_cons_of_mem _ member), ascends.later.tail⟩
      refine ⟨before, ?_⟩
      intro z z_left w w_taken
      rcases List.mem_cons.mp w_taken with rfl | earlier
      · have z_mem : z ∈ x :: xs := hleft ▸ List.mem_append_right fromLeft z_left
        rcases List.mem_cons.mp z_mem with rfl | later
        · simpa using stays
        · cases goes : first z w with
          | false => rfl
          | true =>
            exact absurd (List.rel_of_pairwise_cons ascends.earlier later w List.mem_cons_self goes)
              stays
      · exact behind z z_left w earlier
  | case3 => exact ⟨[], [], rfl, rfl, .refl _, by simp, by simp⟩

/-- The end of a list as two of its fronts show it: what the first leaves behind holds the second,
taken from the other end, as long as there is room. -/
theorem behind_eq {whole front behind back ahead : List α} (hfront : whole = front ++ behind)
    (hback : whole.reverse = back ++ ahead) (room : whole.length - ahead.length ≤ behind.length) :
    behind = behind.take (behind.length - (whole.length - ahead.length)) ++ back.reverse := by
  have size : whole.length = back.length + ahead.length := by
    simpa using congrArg List.length hback
  have ends : front ++ behind = ahead.reverse ++ back.reverse := by
    rw [← hfront, ← List.reverse_append, ← hback, List.reverse_reverse]
  have fits : back.length ≤ behind.length := by omega
  have dropped : behind.drop (behind.length - back.length) = back.reverse := by
    have lengths := congrArg List.length ends
    simp only [List.length_append, List.length_reverse] at lengths
    have cut : ahead.length = front.length + (behind.length - back.length) := by omega
    have total := congrArg (List.drop ahead.length) ends
    rwa [List.drop_left' List.length_reverse, cut, List.drop_length_add_append] at total
  rw [← dropped, show whole.length - ahead.length = back.length by omega, List.take_append_drop]

/-- A merge from both ends keeps the items: the halves and what lies between them are all of either
list, unless the halves overlap, and then there is no merge. -/
theorem mergeEnds?_perm {left right merged : List α}
    (done : mergeEnds? before left right = some merged) : merged.Perm (left ++ right) := by
  unfold mergeEnds? at done
  dsimp only at done
  obtain ⟨frontLeft, frontRight, hleft, hright, front, -⟩ := mergeSteps_taken (goesFirst before)
    ((left.length + right.length) / 2) left right
  obtain ⟨backRight, backLeft, hright', hleft', back, -⟩ :=
    mergeSteps_taken (fun right left => goesFirst before left right)
      ((left.length + right.length) / 2) right.reverse left.reverse
  generalize mergeSteps (goesFirst before) ((left.length + right.length) / 2) left right =
    forward at hleft hright front done
  generalize mergeSteps (fun right left => goesFirst before left right)
    ((left.length + right.length) / 2) right.reverse left.reverse =
    backward at hleft' hright' back done
  obtain ⟨front', leftBehind, rightBehind⟩ := forward
  obtain ⟨back', rightAhead, leftAhead⟩ := backward
  dsimp only at hleft hright front hleft' hright' back done
  split at done
  · rename_i room
    obtain rfl := Option.some.inj done
    have restLeft := behind_eq hleft hleft' room.1
    have restRight := behind_eq hright hright' room.2
    generalize leftBehind.take _ = middleLeft at restLeft ⊢
    generalize rightBehind.take _ = middleRight at restRight ⊢
    subst restLeft restRight
    classical
    rw [List.perm_iff_count]
    intro x
    have h1 := front.count_eq x
    have h2 := back.count_eq x
    rw [hleft, hright]
    simp only [List.count_append, List.count_reverse] at h1 h2 ⊢
    omega
  · cases done

/-- Half of a short list keeps its items. -/
theorem sortHalf_perm (isWide : Bool) (items : List α) :
    (sortHalf before isWide items).Perm items := by
  unfold sortHalf
  split
  · split
    · exact (insertAll_perm before _ _).trans ((orderFour_perm before _ _ _ _).append_right _)
    · exact insertAll_perm before [] _
  · exact insertAll_perm before [] _

/-- A short list that is sorted keeps its items. -/
theorem sortShort?_perm {items result : List α}
    (done : sortShort? before items = some result) : result.Perm items := by
  unfold sortShort? at done
  rw [List.splitAt_eq] at done
  refine (mergeEnds?_perm before done).trans ?_
  exact ((sortHalf_perm before _ _).append (sortHalf_perm before _ _)).trans
    (.of_eq (List.take_append_drop _ _))

/-- A chain is no longer than its list. -/
theorem chainLength_le (related : α → α → Bool) (items : List α) :
    chainLength related items ≤ items.length := by
  fun_induction chainLength related items <;> grind

/-- A list that has items has a chain. -/
theorem chainLength_pos (related : α → α → Bool) {items : List α} (nonempty : items ≠ []) :
    0 < chainLength related items := by
  fun_cases chainLength related items <;> grind

/-- A leading run holds the first items of the list, and at least one. -/
theorem leadingRun?_perm {least : Nat} {items run : List α} (nonempty : items ≠ [])
    (found : leadingRun? before least items = some run) :
    run.Perm (items.take run.length) ∧ 0 < run.length := by
  unfold leadingRun? at found
  dsimp only at found
  have descending := chainLength_le (fun first second => before second first) items
  have ascending := chainLength_le (goesFirst before) items
  have some_item := chainLength_pos (goesFirst before) nonempty
  split at found <;> split at found <;> simp only [Option.some.injEq, reduceCtorEq] at found <;>
    subst found
  · rw [List.length_reverse, List.length_take, Nat.min_eq_left descending]
    exact ⟨List.reverse_perm _, by omega⟩
  · rw [List.length_take, Nat.min_eq_left ascending]
    exact ⟨.refl _, some_item⟩

/-- The runs of a list hold its items, by induction on the fuel: every run holds the items that it
is cut from. -/
theorem runsOf?_perm (atOnce : Bool) {least : Nat} (positive : 0 < least) (fuel : Nat)
    (items : List α) (enough : items.length ≤ fuel) {runs : List (Run α)}
    (cut : runsOf? before atOnce least fuel items = some runs) :
    (runs.flatMap Run.items).Perm items := by
  fun_induction runsOf? before atOnce least fuel items generalizing runs with
  | case1 items =>
    obtain rfl := Option.some.inj cut
    simp_all
  | case2 =>
    obtain rfl := Option.some.inj cut
    simp
  | case3 fuel items nonempty run found ih =>
    obtain ⟨later, laterCut, rfl⟩ := Option.map_eq_some_iff.mp cut
    have ⟨perm, size⟩ := leadingRun?_perm before (by simpa using nonempty) found
    rw [List.flatMap_cons]
    refine (perm.append (ih ?_ laterCut)).trans (.of_eq (List.take_append_drop _ _))
    rw [List.length_drop]
    omega
  | case4 fuel items nonempty missing now ih =>
    obtain ⟨run, runSorted, rest⟩ := Option.bind_eq_some_iff.mp cut
    obtain ⟨later, laterCut, joined⟩ := Option.bind_eq_some_iff.mp rest
    obtain rfl := Option.some.inj joined
    rw [List.flatMap_cons]
    refine ((sortShort?_perm before runSorted).append (ih ?_ laterCut)).trans
      (.of_eq (List.take_append_drop _ _))
    rw [List.length_drop, shortLength]
    omega
  | case5 fuel items nonempty missing notNow ih =>
    obtain ⟨later, laterCut, rfl⟩ := Option.map_eq_some_iff.mp cut
    rw [List.flatMap_cons]
    refine (List.Perm.append_left _ (ih ?_ laterCut)).trans
      (.of_eq (List.take_append_drop _ _))
    rw [List.length_drop]
    omega

/-- A run that is there already has an item. -/
theorem leastRunLength_pos {total : Nat} (positive : 0 < total) : 0 < leastRunLength total := by
  unfold leastRunLength
  split
  · omega
  · rename_i long
    have shift : 1 ≤ (1 + Nat.log2 total) / 2 := by
      have : 1 ≤ Nat.log2 total := (Nat.le_log2 (by omega)).2 (by omega)
      omega
    have power : 2 ≤ Nat.pow 2 ((1 + Nat.log2 total) / 2) := by
      calc 2 = 2 ^ 1 := rfl
        _ ≤ 2 ^ ((1 + Nat.log2 total) / 2) := Nat.pow_le_pow_right (by omega) shift
    exact Nat.div_pos (Nat.le_add_right_of_le power) (by decide)

/-- A relation between lists and their rearrangements that can be shown part by part. -/
structure IsPartwise (related : List α → List α → Prop) : Prop where
  refl : ∀ items, related items items
  trans : ∀ {first second third}, related first second → related second third → related first third
  append : ∀ {left right left' right'}, related left left' → related right right' →
    related (left ++ right) (left' ++ right')

/-- Being a permutation can be shown part by part. -/
theorem isPartwise_perm : IsPartwise fun items result : List α => result.Perm items where
  refl := .refl
  trans one two := two.trans one
  append one two := one.append two

/-- Whether joining two sound runs makes a sound one whose items are related to theirs, if it makes
one at all. -/
def JoinKeeps (sound : Run α → Prop) (related : List α → List α → Prop)
    (join? : Run α → Run α → Option (Run α)) : Prop :=
  ∀ left right joined, sound left → sound right → join? left right = some joined →
    sound joined ∧ related (left.items ++ right.items) joined.items

/-- The items of runs that are held nearest first. -/
def itemsBefore (earlier : List (Run α × Nat)) : List α :=
  earlier.reverse.flatMap fun held => held.1.items

section Joining

variable {sound : Run α → Prop} {related : List α → List α → Prop}
  {join? : Run α → Run α → Option (Run α)}

/-- Runs that are joined with the one at hand give it their items. -/
theorem collapse?_related (partwise : IsPartwise related) (keeps : JoinKeeps sound related join?)
    (depth : Nat) (earlier : List (Run α × Nat)) (run : Run α)
    (heldSound : ∀ held ∈ earlier, sound held.1) (runSound : sound run)
    {rest : List (Run α × Nat)} {joined : Run α}
    (collapsed : collapse? join? depth earlier run = some (rest, joined)) :
    (∀ held ∈ rest, sound held.1) ∧ sound joined ∧
      related (itemsBefore earlier ++ run.items) (itemsBefore rest ++ joined.items) := by
  induction earlier generalizing run with
  | nil =>
    obtain ⟨rfl, rfl⟩ := Prod.mk.inj (Option.some.inj collapsed)
    exact ⟨by simp, runSound, partwise.refl _⟩
  | cons held earlier ih =>
    obtain ⟨left, level⟩ := held
    rw [collapse?] at collapsed
    split at collapsed
    · obtain ⟨middle, middleJoined, below⟩ := Option.bind_eq_some_iff.mp collapsed
      have step := keeps left run middle (heldSound _ List.mem_cons_self) runSound middleJoined
      obtain ⟨restSound, lastSound, same⟩ :=
        ih middle (fun held member => heldSound held (List.mem_cons_of_mem _ member)) step.1 below
      refine ⟨restSound, lastSound, ?_⟩
      have whole :=
        partwise.trans (partwise.append (partwise.refl (itemsBefore earlier)) step.2) same
      simpa [itemsBefore] using whole
    · obtain ⟨rfl, rfl⟩ := Prod.mk.inj (Option.some.inj collapsed)
      exact ⟨heldSound, runSound, partwise.refl _⟩

/-- No boundary lies above depth 0, so joining down to it leaves one run. -/
theorem collapse?_zero {earlier rest : List (Run α × Nat)} {run joined : Run α}
    (collapsed : collapse? join? 0 earlier run = some (rest, joined)) : rest = [] := by
  induction earlier generalizing run with
  | nil => exact (Prod.mk.inj (Option.some.inj collapsed)).1.symm
  | cons held earlier ih =>
    obtain ⟨left, level⟩ := held
    rw [collapse?, if_pos (Nat.zero_le level)] at collapsed
    obtain ⟨middle, -, below⟩ := Option.bind_eq_some_iff.mp collapsed
    exact ih below

/-- The one run that is left holds the items of all. The induction is on the runs to come; what one
of them adds is the step of `collapse?_related`. -/
theorem joinAll?_related (partwise : IsPartwise related) (keeps : JoinKeeps sound related join?)
    (total : Nat) (earlier : List (Run α × Nat)) (start : Nat) (run : Run α)
    (later : List (Run α)) (heldSound : ∀ held ∈ earlier, sound held.1) (runSound : sound run)
    (laterSound : ∀ next ∈ later, sound next) {result : Run α}
    (joinedAll : joinAll? join? total earlier start run later = some result) :
    sound result ∧
      related (itemsBefore earlier ++ run.items ++ later.flatMap Run.items) result.items := by
  induction later generalizing earlier start run with
  | nil =>
    obtain ⟨⟨rest, joined⟩, collapsed, rfl⟩ := Option.map_eq_some_iff.mp joinedAll
    obtain ⟨-, lastSound, same⟩ :=
      collapse?_related partwise keeps 0 earlier run heldSound runSound collapsed
    rw [collapse?_zero collapsed] at same
    exact ⟨lastSound, by simpa [itemsBefore] using same⟩
  | cons next later ih =>
    obtain ⟨⟨rest, joined⟩, collapsed, below⟩ := Option.bind_eq_some_iff.mp joinedAll
    obtain ⟨restSound, lastSound, same⟩ :=
      collapse?_related partwise keeps _ earlier run heldSound runSound collapsed
    obtain ⟨resultSound, all⟩ := ih _ _ next (List.forall_mem_cons.mpr ⟨lastSound, restSound⟩)
      (laterSound next List.mem_cons_self)
      (fun other member => laterSound other (List.mem_cons_of_mem next member)) below
    refine ⟨resultSound, ?_⟩
    have step := partwise.append same (partwise.refl (next.items ++ later.flatMap Run.items))
    refine partwise.trans (by simpa [itemsBefore] using step) (by simpa [itemsBefore] using all)

/-- Runs are joined with the one at hand if two sound runs can always be joined. -/
theorem collapse?_isSome (keeps : JoinKeeps sound related join?)
    (joins : ∀ left right, sound left → sound right → (join? left right).isSome = true)
    (depth : Nat) {earlier : List (Run α × Nat)} {run : Run α}
    (heldSound : ∀ held ∈ earlier, sound held.1) (runSound : sound run) :
    (collapse? join? depth earlier run).isSome = true := by
  induction earlier generalizing run with
  | nil => rfl
  | cons held earlier ih =>
    obtain ⟨left, level⟩ := held
    obtain ⟨leftSound, restSound⟩ := List.forall_mem_cons.mp heldSound
    rw [collapse?]
    split
    · obtain ⟨joined, found⟩ := Option.isSome_iff_exists.mp (joins left run leftSound runSound)
      rw [found]
      exact ih restSound (keeps left run joined leftSound runSound found).1
    · rfl

/-- All runs are joined if two sound runs can always be joined. -/
theorem joinAll?_isSome (partwise : IsPartwise related) (keeps : JoinKeeps sound related join?)
    (joins : ∀ left right, sound left → sound right → (join? left right).isSome = true)
    (total : Nat) (earlier : List (Run α × Nat)) (start : Nat) {run : Run α} {later : List (Run α)}
    (heldSound : ∀ held ∈ earlier, sound held.1) (runSound : sound run)
    (laterSound : ∀ next ∈ later, sound next) :
    (joinAll? join? total earlier start run later).isSome = true := by
  induction later generalizing earlier start run with
  | nil =>
    rw [joinAll?, Option.isSome_map]
    exact collapse?_isSome keeps joins 0 heldSound runSound
  | cons next later ih =>
    obtain ⟨nextSound, restSound⟩ := List.forall_mem_cons.mp laterSound
    let middle := start + run.items.length
    let depth := boundaryDepth total start middle (middle + next.items.length)
    obtain ⟨⟨rest, joined⟩, collapsed⟩ :=
      Option.isSome_iff_exists.mp (collapse?_isSome keeps joins depth heldSound runSound)
    obtain ⟨earlierSound, joinedSound, -⟩ :=
      collapse?_related partwise keeps depth earlier run heldSound runSound collapsed
    have step : joinAll? join? total earlier start run (next :: later) =
        joinAll? join? total ((joined, depth) :: rest) middle next later := by
      rw [joinAll?]
      exact congrArg (Option.bind · _) collapsed
    rw [step]
    exact ih _ middle (List.forall_mem_cons.mpr ⟨joinedSound, earlierSound⟩) nextSound restSound

end Joining

/-- Whether a way to sort keeps the items of every list that it sorts. -/
def KeepsAll (sortItems? : List α → Option (List α)) : Prop :=
  ∀ items result, sortItems? items = some result → result.Perm items

/-- The items of a run are kept when it is put in order. -/
theorem Run.sorted?_perm {sortItems? : List α → Option (List α)} (keeps : KeepsAll sortItems?)
    {run : Run α} {result : List α} (done : run.sorted? sortItems? = some result) :
    result.Perm run.items := by
  rw [Run.sorted?] at done
  split at done
  · obtain rfl := Option.some.inj done
    exact .refl _
  · exact keeps _ _ done

/-- Joining two runs keeps their items. -/
theorem Run.join?_perm {sortItems? : List α → Option (List α)} (keeps : KeepsAll sortItems?) :
    JoinKeeps (fun _ => True) (fun items result => result.Perm items)
      (Run.join? before sortItems?) := by
  intro left right joined _ _ done
  refine ⟨trivial, ?_⟩
  rw [Run.join?] at done
  split at done
  · obtain ⟨leftItems, leftSorted, rest⟩ := Option.bind_eq_some_iff.mp done
    obtain ⟨rightItems, rightSorted, merged⟩ := Option.bind_eq_some_iff.mp rest
    obtain rfl := Option.some.inj merged
    exact (merge_perm before _ _).trans
      ((Run.sorted?_perm keeps leftSorted).append (Run.sorted?_perm keeps rightSorted))
  · obtain rfl := Option.some.inj done
    exact .refl _

/-- Sorting by runs keeps the items: the runs hold all of them, and so does the run that they are
joined to. -/
theorem sortByRuns?_perm (atOnce : Bool) {sortItems? : List α → Option (List α)}
    (keeps : KeepsAll sortItems?) : KeepsAll (sortByRuns? before atOnce sortItems?) := by
  intro items result done
  by_cases empty : items = []
  · subst empty
    obtain rfl := Option.some.inj done
    exact .refl _
  obtain ⟨runs, cut, rest⟩ := Option.bind_eq_some_iff.mp done
  have perm := runsOf?_perm before atOnce (leastRunLength_pos (List.length_pos_iff.2 empty))
    items.length items (Nat.le_refl _) cut
  cases runs with
  | nil =>
    obtain rfl := Option.some.inj rest
    exact perm
  | cons run later =>
    obtain ⟨whole, joined, sorted⟩ := Option.bind_eq_some_iff.mp rest
    have all := (joinAll?_related isPartwise_perm (Run.join?_perm before keeps) items.length [] 0
      run later (by simp) trivial (by simp) joined).2
    refine (Run.sorted?_perm keeps sorted).trans (all.trans ?_)
    simpa [itemsBefore] using perm

/-- A list is the items that pass a test and those that do not. -/
theorem filter_perm (belongs : α → Bool) (items : List α) :
    (items.filter belongs ++ items.filter fun item => !belongs item).Perm items := by
  induction items with
  | nil => exact .refl _
  | cons item rest ih =>
    cases h : belongs item
    · simpa [h] using List.perm_middle.trans (ih.cons item)
    · simpa [h] using ih.cons item

/-- Both parts of a list together hold its items. -/
theorem partAt_perm (place : Nat) (pivotGoesLeft : Bool) (belongs : α → Bool) (items : List α) :
    ((partAt place pivotGoesLeft belongs items).1 ++
      (partAt place pivotGoesLeft belongs items).2).Perm items := by
  have whole : items.take place ++ (items.drop place).take 1 ++ items.drop (place + 1) = items := by
    rw [List.append_assoc, ← List.drop_drop, List.take_append_drop, List.take_append_drop]
  classical
  rw [List.perm_iff_count]
  intro x
  have earlier := (filter_perm belongs (items.take place)).count_eq x
  have later := (filter_perm belongs (items.drop (place + 1))).count_eq x
  have total := congrArg (List.count x) whole
  unfold partAt
  cases pivotGoesLeft <;> simp only [List.count_append] at * <;> grind

/-- Sorting by parts keeps the items, by induction along the recursion: each call parts its list and
keeps the items of either part. -/
theorem sortByParts?_perm (limit : Nat) (bound : Option α) :
    KeepsAll (sortByParts? before limit bound) := by
  intro items
  fun_induction sortByParts? before limit bound items with
  | case1 limit bound items short => exact fun _ => sortShort?_perm before
  | case2 bound items long =>
    refine sortByRuns?_perm before true ?_ items
    intro part same kept
    exact .of_eq (Option.some.inj kept).symm
  | case3 => exact fun _ done => .of_eq (Option.some.inj done).symm
  | case4 bound items long limit place pivot found left right parted equalNext equal greater again
    ih =>
    intro result done
    obtain ⟨upper, upperSorted, rfl⟩ := Option.map_eq_some_iff.mp done
    have perm := partAt_perm place true (fun item => !before pivot item) items
    rw [again] at perm
    exact ((ih upper upperSorted).append_left equal).trans perm
  | case5 bound items long limit place pivot found left right parted unequal ih ih' =>
    intro result done
    obtain ⟨lower, lowerSorted, rest⟩ := Option.bind_eq_some_iff.mp done
    obtain ⟨upper, upperSorted, joined⟩ := Option.bind_eq_some_iff.mp rest
    obtain rfl := Option.some.inj joined
    have perm := partAt_perm place false (before · pivot) items
    rw [parted] at perm
    exact ((ih lower lowerSorted).append (ih' upper upperSorted)).trans perm

/-- Sorting keeps the items, whatever the comparison says, unless it stops. -/
theorem sort?_perm {items result : List α} (done : sort? before items = some result) :
    result.Perm items := by
  unfold sort? at done
  split at done
  · obtain rfl := Option.some.inj done
    exact insertAll_perm before [] items
  · refine sortByRuns?_perm before _ ?_ items result done
    exact fun part => sortByParts?_perm before (partitionLimit part.length) none part

end ArgoQuery.Sorting
