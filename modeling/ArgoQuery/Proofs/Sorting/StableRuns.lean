import ArgoQuery.Proofs.Sorting.StableMerge

/-!
# Sorting by runs is stable

A run is taken from the start of what is left, so the runs of a list put together have its ties. A
run that descends is reversed, which moves no item past one that it is tied with: it descends
strictly. Joining keeps ties part by part, and no merge is impossible. Main statement:
`sortByRuns?_arranges`.

Nothing is asked of the way in which unsorted runs are sorted if every run is sorted when it is cut.
-/

namespace ArgoQuery.Sorting

variable {α : Type} {before : α → α → Bool} {inside : α → Prop}

/-- Neighbours that are related one after the other are all related, if the relation is transitive
on them. -/
theorem chainLength_pairwise (related : α → α → Bool)
    (transitive : ∀ {x y z}, inside x → inside y → inside z → related x y = true →
      related y z = true → related x z = true) {items : List α} (members : ∀ x ∈ items, inside x) :
    (items.take (chainLength related items)).Pairwise fun x y => related x y = true := by
  fun_induction chainLength related items with
  | case1 => exact List.Pairwise.nil
  | case2 item => exact List.pairwise_singleton _ item
  | case3 first second rest linked ih =>
    have later : ∀ x ∈ second :: rest, inside x := fun x member =>
      members x (List.mem_cons_of_mem first member)
    have pairwise := ih later
    rw [List.take_succ_cons]
    refine List.pairwise_cons.mpr ⟨?_, pairwise⟩
    obtain ⟨count, positive⟩ := Nat.exists_eq_succ_of_ne_zero
      (Nat.pos_iff_ne_zero.mp (chainLength_pos related (List.cons_ne_nil second rest)))
    rw [positive, List.take_succ_cons] at pairwise ⊢
    intro z member
    rcases List.mem_cons.mp member with rfl | beyond
    · exact linked
    · exact transitive (members first List.mem_cons_self) (later second List.mem_cons_self)
        (later z (List.mem_cons_of_mem second (List.mem_of_mem_take beyond))) linked
        (List.rel_of_pairwise_cons pairwise beyond)
  | case4 first second rest => exact List.pairwise_singleton _ first

/-- Items of which no two are tied may be reversed. -/
theorem keepsTies_reverse (order : IsOrderOn before inside) {items : List α}
    (members : ∀ x ∈ items, inside x)
    (untied : items.Pairwise fun x y => tied before x y = false) :
    KeepsTies before inside items items.reverse := by
  induction items with
  | nil => exact .refl _
  | cons item rest ih =>
    have rest_inside : ∀ x ∈ rest, inside x := fun x member =>
      members x (List.mem_cons_of_mem item member)
    have moved : KeepsTies before inside ([item] ++ rest) (rest ++ [item]) :=
      .swap order (by simpa using members item List.mem_cons_self) rest_inside (by
        simpa using (List.pairwise_cons.mp untied).1)
    rw [List.reverse_cons]
    exact moved.trans ((ih rest_inside untied.tail).append (.refl [item]))

/-- A chain that descends is arranged by reversing it: it descends strictly, so no two of its items
are tied. -/
theorem descending_arranges (order : IsOrderOn before inside) {items : List α}
    (members : ∀ x ∈ items, inside x) :
    Arranges before inside
      (items.take (chainLength (fun first second => before second first) items))
      (items.take (chainLength (fun first second => before second first) items)).reverse := by
  have pairwise := chainLength_pairwise (fun first second => before second first)
    (fun hx hy hz first second => order.before_of_before_of_atMost hz hy hx second
      (order.asymmetric hy hx first)) members
  generalize chainLength (fun first second => before second first) items = count at pairwise ⊢
  have taken : ∀ x ∈ items.take count, inside x := fun x member =>
    members x (List.mem_of_mem_take member)
  refine ⟨List.reverse_perm _, inOrder_flip.mp ?_, keepsTies_reverse order taken ?_⟩
  · exact pairwise.imp_of_mem fun hx hy first =>
      order.asymmetric (taken _ hy) (taken _ hx) first
  · exact pairwise.imp fun {x y} first => (tied_comm x y).trans (tied_eq_false_of_before first)

/-- A chain that ascends is arranged as it stands. -/
theorem ascending_arranges (order : IsOrderOn before inside) {items : List α}
    (members : ∀ x ∈ items, inside x) :
    Arranges before inside (items.take (chainLength (goesFirst before) items))
      (items.take (chainLength (goesFirst before) items)) := by
  have transitive {x y z : α} (hx : inside x) (hy : inside y) (hz : inside z)
      (first : goesFirst before x y = true) (second : goesFirst before y z = true) :
      goesFirst before x z = true := by
    simp only [goesFirst, Bool.not_eq_true'] at first second ⊢
    exact order.transitive hx hy hz first second
  have pairwise := chainLength_pairwise (goesFirst before) transitive members
  refine ⟨.refl _, pairwise.imp fun first => ?_, .refl _⟩
  simpa [goesFirst] using first

/-- A leading run arranges the items that it is made of. -/
theorem leadingRun?_arranges (order : IsOrderOn before inside) {least : Nat} {items run : List α}
    (members : ∀ x ∈ items, inside x) (found : leadingRun? before least items = some run) :
    Arranges before inside (items.take run.length) run := by
  have descending := descending_arranges order members
  have ascending := ascending_arranges order members
  unfold leadingRun? at found
  dsimp only at found
  split at found <;> split at found <;> simp only [Option.some.injEq, reduceCtorEq] at found <;>
    subst found
  · rwa [List.length_reverse, List.length_take,
      Nat.min_eq_left (chainLength_le (fun first second => before second first) items)]
  · rwa [List.length_take, Nat.min_eq_left (chainLength_le (goesFirst before) items)]

/-- Whether a way to sort arranges every list of the class. -/
def Sorts (before : α → α → Bool) (inside : α → Prop) (sortItems? : List α → Option (List α)) :
    Prop :=
  ∀ items, (∀ x ∈ items, inside x) →
    ∃ result, sortItems? items = some result ∧ Arranges before inside items result

/-- A run of the class that is in order if it says so, and can be sorted otherwise. -/
structure Run.Sound (before : α → α → Bool) (inside : α → Prop)
    (sortItems? : List α → Option (List α)) (run : Run α) : Prop where
  members : ∀ x ∈ run.items, inside x
  inOrder : run.isSorted = true → InOrder before run.items
  sorts : run.isSorted = false → Sorts before inside sortItems?

/-- A sound run can be put in order. -/
theorem Run.sorted?_arranges {sortItems? : List α → Option (List α)} {run : Run α}
    (sound : run.Sound before inside sortItems?) :
    ∃ result, run.sorted? sortItems? = some result ∧ Arranges before inside run.items result := by
  rw [Run.sorted?]
  split
  · rename_i isSorted
    exact ⟨run.items, rfl, .refl _, sound.inOrder isSorted, .refl _⟩
  · rename_i unsorted
    exact sound.sorts (by simpa using unsorted) run.items sound.members

/-- A rearrangement that keeps ties. -/
def Rearranges (before : α → α → Bool) (inside : α → Prop) (items result : List α) : Prop :=
  result.Perm items ∧ KeepsTies before inside items result

/-- Rearranging with ties kept can be shown part by part. -/
theorem isPartwise_rearranges : IsPartwise (Rearranges before inside) where
  refl items := ⟨.refl items, .refl items⟩
  trans one two := ⟨two.1.trans one.1, one.2.trans two.2⟩
  append one two := ⟨one.1.append two.1, one.2.append two.2⟩

/-- Two sound runs are joined to a sound one that keeps their ties: a merge does, and so does
putting one after the other. -/
theorem Run.join?_sound (order : IsOrderOn before inside) {sortItems? : List α → Option (List α)}
    {left right : Run α} (leftSound : left.Sound before inside sortItems?)
    (rightSound : right.Sound before inside sortItems?) :
    ∃ joined, Run.join? before sortItems? left right = some joined ∧
      joined.Sound before inside sortItems? ∧
      Rearranges before inside (left.items ++ right.items) joined.items := by
  have both : ∀ x ∈ left.items ++ right.items, inside x := fun x member =>
    (List.mem_append.mp member).elim (leftSound.members x) (rightSound.members x)
  rw [Run.join?]
  split
  · obtain ⟨leftItems, leftDone, leftSorted⟩ := Run.sorted?_arranges leftSound
    obtain ⟨rightItems, rightDone, rightSorted⟩ := Run.sorted?_arranges rightSound
    have merged := Arranges.of_keepsTies (leftSorted.perm.append rightSorted.perm)
      (leftSorted.ties.append rightSorted.ties)
      (merge_arranges order (leftSorted.inside_of_mem leftSound.members)
        (rightSorted.inside_of_mem rightSound.members) leftSorted.inOrder rightSorted.inOrder)
    refine ⟨⟨merge before leftItems rightItems, true⟩, ?_,
      ⟨merged.inside_of_mem both, fun _ => merged.inOrder, by simp⟩, merged.perm, merged.ties⟩
    rw [leftDone, rightDone]
    rfl
  · rename_i unsorted
    have unsorted' : left.isSorted = false := by
      cases flag : left.isSorted with
      | false => rfl
      | true => simp [flag] at unsorted
    exact ⟨_, rfl, ⟨both, by simp, fun _ => leftSound.sorts unsorted'⟩, .refl _, .refl _⟩

/-- Joining keeps runs sound and their ties. -/
theorem Run.join?_rearranges (order : IsOrderOn before inside)
    {sortItems? : List α → Option (List α)} :
    JoinKeeps (Run.Sound before inside sortItems?) (Rearranges before inside)
      (Run.join? before sortItems?) := by
  intro left right joined leftSound rightSound done
  obtain ⟨joined', done', kept⟩ := Run.join?_sound order leftSound rightSound
  obtain rfl := Option.some.inj (done.symm.trans done')
  exact kept

/-- Two sound runs can always be joined. -/
theorem Run.join?_isSome (order : IsOrderOn before inside) {sortItems? : List α → Option (List α)}
    (left right : Run α) (leftSound : left.Sound before inside sortItems?)
    (rightSound : right.Sound before inside sortItems?) :
    (Run.join? before sortItems? left right).isSome = true := by
  obtain ⟨joined, done, -⟩ := Run.join?_sound order leftSound rightSound
  rw [done]
  rfl

/-- A sound run cut from the start of a list goes before the runs of what is left. -/
theorem runs_cons {sortItems? : List α → Option (List α)} {items : List α} {run : Run α}
    {later : List (Run α)} (count : Nat) (sound : run.Sound before inside sortItems?)
    (made : Rearranges before inside (items.take count) run.items)
    (rest : (∀ next ∈ later, next.Sound before inside sortItems?) ∧
      Rearranges before inside (items.drop count) (later.flatMap Run.items)) :
    (∀ next ∈ run :: later, next.Sound before inside sortItems?) ∧
      Rearranges before inside items ((run :: later).flatMap Run.items) := by
  refine ⟨List.forall_mem_cons.mpr ⟨sound, rest.1⟩, ?_⟩
  have whole := isPartwise_rearranges.append made rest.2
  rwa [List.take_append_drop] at whole

/-- A list has its runs. Every one of them is sound, and together they keep its ties. The induction
follows the fuel: one run is cut, and the others are those of what is left. -/
theorem runsOf?_rearranges (order : IsOrderOn before inside)
    {sortItems? : List α → Option (List α)} {atOnce : Bool}
    (sorts : atOnce = false → Sorts before inside sortItems?) {least : Nat}
    (positive : 0 < least) (fuel : Nat) (items : List α) (enough : items.length ≤ fuel)
    (members : ∀ x ∈ items, inside x) :
    ∃ runs, runsOf? before atOnce least fuel items = some runs ∧
      (∀ run ∈ runs, run.Sound before inside sortItems?) ∧
      Rearranges before inside items (runs.flatMap Run.items) := by
  fun_induction runsOf? before atOnce least fuel items with
  | case1 items =>
    have empty : items = [] := List.eq_nil_of_length_eq_zero (by omega)
    subst empty
    exact ⟨[], rfl, by simp, isPartwise_rearranges.refl []⟩
  | case2 => exact ⟨[], rfl, by simp, isPartwise_rearranges.refl []⟩
  | case3 fuel items nonempty run found ih =>
    have arranged := leadingRun?_arranges order members found
    have size := (leadingRun?_perm before (by simpa using nonempty) found).2
    have taken : ∀ x ∈ run, inside x :=
      arranged.inside_of_mem fun x member => members x (List.mem_of_mem_take member)
    obtain ⟨later, cut, rest⟩ := ih (by rw [List.length_drop]; omega) fun x member =>
      members x (List.mem_of_mem_drop member)
    exact ⟨_, by rw [cut]; rfl, runs_cons run.length ⟨taken, fun _ => arranged.inOrder, by simp⟩
      ⟨arranged.perm, arranged.ties⟩ rest⟩
  | case4 fuel items nonempty missing now ih =>
    have taken : ∀ x ∈ items.take shortLength, inside x := fun x member =>
      members x (List.mem_of_mem_take member)
    obtain ⟨run, sorted, arranged⟩ := sortShort?_arranges order taken
    obtain ⟨later, cut, rest⟩ := ih (by rw [List.length_drop, shortLength]; omega) fun x member =>
      members x (List.mem_of_mem_drop member)
    exact ⟨_, by rw [sorted, cut]; rfl, runs_cons shortLength
      ⟨arranged.inside_of_mem taken, fun _ => arranged.inOrder, by simp⟩
      ⟨arranged.perm, arranged.ties⟩ rest⟩
  | case5 fuel items nonempty missing notNow ih =>
    have taken : ∀ x ∈ items.take least, inside x := fun x member =>
      members x (List.mem_of_mem_take member)
    obtain ⟨later, cut, rest⟩ := ih (by rw [List.length_drop]; omega) fun x member =>
      members x (List.mem_of_mem_drop member)
    exact ⟨_, by rw [cut]; rfl, runs_cons least
      ⟨taken, by simp, fun _ => sorts (by simpa using notNow)⟩ (isPartwise_rearranges.refl _) rest⟩

/-- Sorting by runs arranges a list, if its runs are sorted when they are cut or can be sorted. The
runs keep its ties, and so does the one run that they are joined to; that is put in order last. -/
theorem sortByRuns?_arranges (order : IsOrderOn before inside)
    {sortItems? : List α → Option (List α)} {atOnce : Bool}
    (sorts : atOnce = false → Sorts before inside sortItems?) :
    Sorts before inside (sortByRuns? before atOnce sortItems?) := by
  intro items members
  by_cases empty : items = []
  · subst empty
    exact ⟨[], rfl, .refl _, List.Pairwise.nil, .refl _⟩
  obtain ⟨runs, cut, sound, kept⟩ := runsOf?_rearranges order sorts
    (leastRunLength_pos (List.length_pos_iff.mpr empty)) items.length items (Nat.le_refl _) members
  cases runs with
  | nil => exact absurd kept.1.symm.eq_nil empty
  | cons run later =>
    obtain ⟨runSound, laterSound⟩ := List.forall_mem_cons.mp sound
    have keeps : JoinKeeps (Run.Sound before inside sortItems?) (Rearranges before inside)
        (Run.join? before sortItems?) := Run.join?_rearranges order
    obtain ⟨whole, joined⟩ := Option.isSome_iff_exists.mp (joinAll?_isSome isPartwise_rearranges
      keeps (Run.join?_isSome order) items.length [] 0 (by simp) runSound laterSound)
    obtain ⟨wholeSound, same⟩ := joinAll?_related isPartwise_rearranges keeps items.length [] 0 run
      later (by simp) runSound laterSound joined
    obtain ⟨result, done, sorted⟩ := Run.sorted?_arranges wholeSound
    have all := isPartwise_rearranges.trans kept same
    refine ⟨result, ?_, .of_keepsTies all.1 all.2 sorted⟩
    unfold sortByRuns?
    simp only [cut, Option.bind_some, joined, done]

end ArgoQuery.Sorting
