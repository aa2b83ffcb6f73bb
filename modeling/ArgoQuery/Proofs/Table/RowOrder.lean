import ArgoQuery.Proofs.Sorting.StableOrder
import ArgoQuery.Table.Order

/-!
# When the comparison of rows is an order

Two rows are compared as numbers where both have one and as keys otherwise. Both are orders, but a
column that holds numbers beside other keys mixes them: of three rows, two numbers and a text
between their keys, none needs to be the least. Main statements:
`compareBy_symmetric_and_transitive`, that comparing the other way round reverses the answer always,
and that the comparison is transitive on rows of which no column mixes the two; `compareBy_cycle`,
three rows on which it is not; and `isOrderOn_of_homogeneous`, that it orders a whole list of rows
if every column treats them alike.
-/

namespace ArgoQuery

/-- A text without characters spells no number. -/
theorem Binary64.read?_empty : Binary64.read? "" = none := rfl

/-- Comparing two numbers the other way round reverses the answer. -/
theorem Binary64.compareTotal_swap (x y : Binary64) :
    y.compareTotal x = (x.compareTotal y).swap := by
  rw [compareTotal, compareTotal]
  exact Std.OrientedCmp.eq_swap

/-- What has a number has a key. -/
theorem Value.key?_isSome_of_number? {value : Value} (numeric : value.number?.isSome = true) :
    value.key?.isSome = true := by
  cases value with
  | null => cases numeric
  | bool flag => cases numeric
  | int value => rfl
  | float value => rfl
  | text value =>
    simp only [Value.number?, Value.key?] at numeric ⊢
    split
    · rename_i blank
      rw [String.isEmpty_iff.mp blank, Binary64.read?_empty] at numeric
      cases numeric
    · rfl

namespace Row

/-- A row that has a number in a column has a key there. -/
theorem key?_isSome_of_number? {row : Row} {column : String}
    (numeric : (row.number? column).isSome = true) : (row.key? column).isSome = true := by
  rw [number?, key?] at *
  cases found : row.get? column with
  | none => simp [found] at numeric
  | some value =>
    rw [found] at numeric
    exact Value.key?_isSome_of_number? numeric

/-- Whether a column compares all of some rows in one way: as numbers, where those without a key
come first, or as keys, where no two of them have numbers. -/
def IsUniform (column : String) (rows : List Row) : Prop :=
  (∀ row ∈ rows, (row.number? column).isSome = true ∨ row.key? column = none) ∨
    rows.countP (fun row => (row.number? column).isSome) ≤ 1

instance (column : String) (rows : List Row) : Decidable (IsUniform column rows) :=
  inferInstanceAs (Decidable (_ ∨ _))

/-- Whether a column mixes numbers and other keys does not depend on the order of the rows. -/
theorem IsUniform.perm {column : String} {rows other : List Row} (perm : rows.Perm other)
    (uniform : IsUniform column rows) : IsUniform column other := by
  rcases uniform with numbers | keys
  · exact .inl fun row member => numbers row (perm.mem_iff.mpr member)
  · exact .inr (perm.countP_eq _ ▸ keys)

end Row

/-- Keys are compared as texts, and having none comes before every key. -/
theorem compareKeys_eq_compare (left right : Option String) :
    compareKeys left right = compare left right := by
  cases left <;> cases right <;> rfl

namespace Row

/-- The rank of a row's number in the total order; a row without a number has none. -/
def rankIn? (column : String) (row : Row) : Option Int :=
  (row.number? column).map Binary64.totalRank

/-- A row without a key in a column has no number in it either. -/
theorem number?_eq_none_of_key? {row : Row} {column : String} (missing : row.key? column = none) :
    row.number? column = none := by
  cases found : row.number? column with
  | none => rfl
  | some number =>
    have keyed : (row.key? column).isSome = true := key?_isSome_of_number? (by simp [found])
    simp [missing] at keyed

/-- Rows with numbers are compared by them, and come behind rows without a key. -/
theorem compareColumn_eq_compare_rank {column : String} {left right : Row}
    (leftNumber : (left.number? column).isSome = true ∨ left.key? column = none)
    (rightNumber : (right.number? column).isSome = true ∨ right.key? column = none) :
    compareColumn column left right = compare (left.rankIn? column) (right.rankIn? column) := by
  unfold compareColumn rankIn?
  rcases leftNumber with leftSome | leftNone
  · obtain ⟨x, leftFound⟩ := Option.isSome_iff_exists.mp leftSome
    rcases rightNumber with rightSome | rightNone
    · obtain ⟨y, rightFound⟩ := Option.isSome_iff_exists.mp rightSome
      rw [leftFound, rightFound]
      rfl
    · obtain ⟨key, leftKey⟩ := Option.isSome_iff_exists.mp (key?_isSome_of_number? leftSome)
      rw [leftFound, number?_eq_none_of_key? rightNone, leftKey, rightNone]
      rfl
  · rw [number?_eq_none_of_key? leftNone, leftNone]
    rcases rightNumber with rightSome | rightNone
    · obtain ⟨y, rightFound⟩ := Option.isSome_iff_exists.mp rightSome
      obtain ⟨key, rightKey⟩ := Option.isSome_iff_exists.mp (key?_isSome_of_number? rightSome)
      rw [rightFound, rightKey]
      rfl
    · rw [number?_eq_none_of_key? rightNone, rightNone]
      rfl

/-- Two rows of which one has no number are compared by their keys. -/
theorem compareColumn_eq_compare_key {column : String} {left right : Row}
    (notBoth : left.number? column = none ∨ right.number? column = none) :
    compareColumn column left right = compare (left.key? column) (right.key? column) := by
  rw [compareColumn, ← compareKeys_eq_compare]
  rcases notBoth with missing | missing
  · rw [missing]
  · rw [missing]
    cases left.number? column <;> rfl

/-- The column compares two rows the other way round with the answer reversed. -/
theorem compareColumn_swap (column : String) (left right : Row) :
    compareColumn column right left = (compareColumn column left right).swap := by
  unfold compareColumn
  have keys : compare (right.key? column) (left.key? column) =
      (compare (left.key? column) (right.key? column)).swap := Std.OrientedCmp.eq_swap
  simp only [compareKeys_eq_compare]
  cases left.number? column with
  | none => cases right.number? column <;> exact keys
  | some x =>
    cases right.number? column with
    | none => exact keys
    | some y => exact x.compareTotal_swap y

/-- A column is transitive on three rows that it compares in one way: as numbers, or as keys, where
at most one of the rows has a number and so no two of them have. -/
theorem compareColumn_isLE_trans {column : String} {a b c : Row}
    (uniform : IsUniform column [a, b, c]) (ab : (compareColumn column a b).isLE = true)
    (bc : (compareColumn column b c).isLE = true) : (compareColumn column a c).isLE = true := by
  rcases uniform with numbers | keys
  · obtain ⟨ha, hb, hc, -⟩ := by simpa only [List.forall_mem_cons] using numbers
    rw [compareColumn_eq_compare_rank ha hb] at ab
    rw [compareColumn_eq_compare_rank hb hc] at bc
    rw [compareColumn_eq_compare_rank ha hc]
    exact Std.TransCmp.isLE_trans ab bc
  · have pairs : (a.number? column = none ∨ b.number? column = none) ∧
        (b.number? column = none ∨ c.number? column = none) ∧
        (a.number? column = none ∨ c.number? column = none) := by
      cases ha : a.number? column <;> cases hb : b.number? column <;>
        cases hc : c.number? column <;> simp_all
    rw [compareColumn_eq_compare_key pairs.1] at ab
    rw [compareColumn_eq_compare_key pairs.2.1] at bc
    rw [compareColumn_eq_compare_key pairs.2.2]
    exact Std.TransCmp.isLE_trans ab bc

/-- If a column does not tell the first of three ascending rows from the last, it tells neither from
the one between them. -/
theorem compareColumn_eq_of_outer {column : String} {a b c : Row}
    (uniform : IsUniform column [a, b, c]) (ab : (compareColumn column a b).isLE = true)
    (bc : (compareColumn column b c).isLE = true) (ac : compareColumn column a c = .eq) :
    compareColumn column a b = .eq ∧ compareColumn column b c = .eq := by
  have both (order : Ordering) : order.isLE = true → order.swap.isLE = true → order = .eq := by
    cases order <;> decide
  have ca : (compareColumn column c a).isLE = true := by rw [compareColumn_swap column a c, ac]; rfl
  have ba : (compareColumn column b a).isLE = true :=
    compareColumn_isLE_trans (uniform.perm (@List.perm_append_comm _ [a] [b, c])) bc ca
  have cb : (compareColumn column c b).isLE = true :=
    compareColumn_isLE_trans (uniform.perm (@List.perm_append_comm _ [a, b] [c])) ca ab
  rw [compareColumn_swap column a b] at ba
  rw [compareColumn_swap column b c] at cb
  exact ⟨both _ ab ba, both _ bc cb⟩

/-- Comparing two rows the other way round reverses the answer. -/
theorem compareBy_swap (columns : List String) (left right : Row) :
    compareBy columns right left = (compareBy columns left right).swap := by
  induction columns with
  | nil => rfl
  | cons column columns ih =>
    rw [compareBy, compareBy, compareColumn_swap, ih, Ordering.swap_then]

/-- The comparison is transitive on three rows that every column compares in one way.

The first column in which two of the rows differ decides. If it does not tell the outer rows apart,
it tells neither of them from the middle one, and the columns after it decide. -/
theorem compareBy_isLE_trans {columns : List String} {a b c : Row}
    (uniform : ∀ column ∈ columns, IsUniform column [a, b, c])
    (ab : (compareBy columns a b).isLE = true) (bc : (compareBy columns b c).isLE = true) :
    (compareBy columns a c).isLE = true := by
  induction columns with
  | nil => rfl
  | cons column columns ih =>
    have here : IsUniform column [a, b, c] := uniform column List.mem_cons_self
    rw [compareBy, Ordering.isLE_then_iff_and] at ab bc ⊢
    refine ⟨compareColumn_isLE_trans here ab.1 bc.1, ?_⟩
    by_cases outer : compareColumn column a c = .eq
    · obtain ⟨abSame, bcSame⟩ := compareColumn_eq_of_outer here ab.1 bc.1 outer
      have others : ∀ other ∈ columns, IsUniform other [a, b, c] := fun other member =>
        uniform other (List.mem_cons_of_mem column member)
      refine .inr (ih others ?_ ?_)
      · simpa [abSame] using ab.2
      · simpa [bcSame] using bc.2
    · left
      have atMost := compareColumn_isLE_trans here ab.1 bc.1
      cases compared : compareColumn column a c with
      | lt => rfl
      | eq => exact absurd compared outer
      | gt => simp [compared] at atMost

/-- Whether a column treats all of some rows alike: all have numbers in it or no key, or none has a
number. -/
def IsHomogeneous (column : String) (rows : List Row) : Prop :=
  (∀ row ∈ rows, (row.number? column).isSome = true ∨ row.key? column = none) ∨
    ∀ row ∈ rows, row.number? column = none

instance (column : String) (rows : List Row) : Decidable (IsHomogeneous column rows) :=
  inferInstanceAs (Decidable (_ ∨ _))

/-- Whether a column treats rows alike does not depend on their order. -/
theorem IsHomogeneous.perm {column : String} {rows other : List Row} (perm : rows.Perm other)
    (homogeneous : IsHomogeneous column rows) : IsHomogeneous column other := by
  rcases homogeneous with numbers | keys
  · exact .inl fun row member => numbers row (perm.mem_iff.mpr member)
  · exact .inr fun row member => keys row (perm.mem_iff.mpr member)

/-- What treats all rows alike treats some of them alike. -/
theorem IsHomogeneous.of_subset {column : String} {rows part : List Row}
    (homogeneous : IsHomogeneous column rows) (members : ∀ row ∈ part, row ∈ rows) :
    IsHomogeneous column part := by
  rcases homogeneous with numbers | keys
  · exact .inl fun row member => numbers row (members row member)
  · exact .inr fun row member => keys row (members row member)

/-- A column that treats some rows alike mixes numbers and other keys among none of them. -/
theorem IsHomogeneous.isUniform {column : String} {rows part : List Row}
    (homogeneous : IsHomogeneous column rows) (members : ∀ row ∈ part, row ∈ rows) :
    IsUniform column part := by
  rcases homogeneous with numbers | keys
  · exact .inl fun row member => numbers row (members row member)
  · have none_counted : part.countP (fun row => (row.number? column).isSome) = 0 := by
      rw [List.countP_eq_zero]
      intro row member
      simp [keys row (members row member)]
    exact .inr (none_counted ▸ Nat.zero_le 1)

/-- A row that does not come before another is at least the other. -/
theorem comesBefore_eq_false {columns : List String} {left right : Row} :
    comesBefore columns right left = false ↔ compareBy columns left right ≠ .gt := by
  rw [comesBefore, decide_eq_false_iff_not, compareBy_swap, ne_eq, Ordering.swap_eq_lt]

/-- Rows that are tied are equal to the comparison. -/
theorem tied_comesBefore {columns : List String} {left right : Row} :
    Sorting.tied (comesBefore columns) left right = true ↔
      compareBy columns left right = .eq := by
  rw [Sorting.tied, Bool.and_eq_true, Bool.not_eq_true', Bool.not_eq_true', comesBefore_eq_false,
    comesBefore_eq_false, compareBy_swap columns left right]
  cases compareBy columns left right <;> decide

/-- The comparison is an order on rows that every column treats alike. -/
theorem isOrderOn_of_homogeneous {columns : List String} {rows : List Row}
    (homogeneous : ∀ column ∈ columns, IsHomogeneous column rows) :
    Sorting.IsOrderOn (comesBefore columns) (· ∈ rows) where
  asymmetric {x y} _ _ first := by
    rw [comesBefore, decide_eq_true_eq] at first
    rw [comesBefore_eq_false, first]
    decide
  transitive {x y z} hx hy hz first second := by
    rw [comesBefore_eq_false] at *
    have uniform : ∀ column ∈ columns, IsUniform column [x, y, z] := by
      intro column member
      refine (homogeneous column member).isUniform ?_
      simp [hx, hy, hz]
    exact Ordering.ne_gt_iff_isLE.mpr (compareBy_isLE_trans uniform
      (Ordering.ne_gt_iff_isLE.mp first) (Ordering.ne_gt_iff_isLE.mp second))

/-- Comparing two rows the other way round reverses the answer, whatever they hold. Three rows that
ascend from the first to the second and from the second to the third ascend from the first to the
third, if no column mixes numbers and other keys among them.

Column by column the comparison is that of ranks or that of keys, both of which are orders, and the
columns are gone through in one sequence for all three rows. -/
theorem compareBy_symmetric_and_transitive (columns : List String) (a b c : Row) :
    compareBy columns b a = (compareBy columns a b).swap ∧
      ((∀ column ∈ columns, IsUniform column [a, b, c]) → compareBy columns a b ≠ .gt →
        compareBy columns b c ≠ .gt → compareBy columns a c ≠ .gt) := by
  refine ⟨compareBy_swap columns a b, ?_⟩
  intro uniform ab bc
  exact Ordering.ne_gt_iff_isLE.mpr (compareBy_isLE_trans uniform
    (Ordering.ne_gt_iff_isLE.mp ab) (Ordering.ne_gt_iff_isLE.mp bc))

/-- A row without a key comes before numbers, and numbers are ordered by size however they are
written; where the first column ties, the second decides. -/
theorem compareBy_ascending_numbers :
    let first := ofList [("cycle_number", .int 3)]
    let second := ofList [("float_id", .text "9"), ("cycle_number", .int 2)]
    let third := ofList [("float_id", .float 9), ("cycle_number", .text " 10 ")]
    (∀ column ∈ ["float_id", "cycle_number"], IsUniform column [first, second, third]) ∧
      compareBy ["float_id", "cycle_number"] first third ≠ .gt := by
  intro first second third
  have uniform : ∀ column ∈ ["float_id", "cycle_number"],
      IsUniform column [first, second, third] := by decide +kernel
  exact ⟨uniform, (compareBy_symmetric_and_transitive _ first second third).2 uniform
    (by decide +kernel) (by decide +kernel)⟩

/-- The comparison is not transitive on all rows: 9 is less than 10 as a number, the text of 10
comes before 1a, and 1a comes before the text of 9. -/
theorem compareBy_cycle :
    ¬∀ (columns : List String) (a b c : Row),
      compareBy columns b a = (compareBy columns a b).swap ∧
        (compareBy columns a b ≠ .gt → compareBy columns b c ≠ .gt →
          compareBy columns a c ≠ .gt) := by
  intro order
  have transitive := (order ["float_id"] (ofList [("float_id", .text "9")])
    (ofList [("float_id", .text "10")]) (ofList [("float_id", .text "1a")])).2
  exact transitive (by decide +kernel) (by decide +kernel) (by decide +kernel)

end Row

end ArgoQuery
