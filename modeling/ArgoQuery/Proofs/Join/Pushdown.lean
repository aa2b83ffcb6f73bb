import ArgoQuery.Join.NestedLoop
import ArgoQuery.Join.Selects
import ArgoQuery.Proofs.Table.RowFields

/-!
# Conditions that are pushed to the store and conditions that are left

A condition reaches the rows of a join twice: as filters of the select, which may admit too much,
and as a residual test of the rows that arrive, which is only made where the filters do not settle
it. `qualifies_eq` says that both together are the condition itself, for every descriptor, side and
row, and `admits_scopedSelect_and_survives_iff` says what a condition is. The residual test sees
projected rows; `survives_project` says when that makes no difference.

For the descriptor of a question `qualifies_ofTopic` says which rows these are.
-/

namespace ArgoQuery

/-- A number below another is at most the other. -/
theorem Binary64.le_of_lt {x y : Binary64} (less : x < y) : x ≤ y := by
  obtain ⟨left, right, ranks⟩ := Binary64.lt_iff.mp less
  exact Binary64.le_iff.mpr ⟨left, right, Int.le_of_lt ranks⟩

namespace Join

/-- A condition holds of a row if its filters admit the row and, where it has to be tested again,
the test succeeds.

Only an excluded upper bound is both pushed and tested: the filters admit the bound itself, and the
test implies them. -/
theorem satisfies_eq (row : Row) (condition : Condition) :
    satisfies row condition =
      ((pushed condition).all (fun filter => filter.admits row) &&
        (!condition.isResidual || condition.holds (row.number? condition.column.name))) := by
  cases condition with
  | notNull column => simp [satisfies, pushed, Filter.admits, Condition.isResidual]
  | wrapped column start stop => simp [satisfies, pushed, Condition.isResidual]
  | between column min max upper =>
    have column_eq : (Condition.between column min max upper).column = column := rfl
    simp only [satisfies, pushed, column_eq, List.all_cons, List.all_nil, Filter.admits,
      Condition.holds, Bool.and_true]
    cases row.number? column.name with
    | none => rfl
    | some number =>
      cases upper with
      | included => simp [Condition.admits, Condition.isResidual]
      | excluded =>
        have within : number < max → number ≤ max := Binary64.le_of_lt
        simp only [Option.any_some, Condition.admits, Condition.isResidual, Bool.not_true,
          Bool.false_or]
        by_cases low : min ≤ number <;> by_cases high : number < max <;>
          simp [low, high, within]

/-- A condition that is not pushed has no filters. -/
theorem pushed_eq_nil {condition : Condition} (kept : condition.isPushable = false) :
    pushed condition = [] := by
  cases condition with
  | notNull column => cases kept
  | between column min max upper => cases kept
  | wrapped column start stop => rfl

/-- The filters and the residual test of some conditions are together the conditions. -/
theorem all_satisfies (row : Row) (conditions : List Condition) :
    conditions.all (satisfies row) =
      (((conditions.filter Condition.isPushable).flatMap pushed).all (fun filter =>
          filter.admits row) &&
        (conditions.filter Condition.isResidual).all fun condition =>
          condition.holds (row.number? condition.column.name)) := by
  induction conditions with
  | nil => rfl
  | cons condition rest ih =>
    have filters : (((condition :: rest).filter Condition.isPushable).flatMap pushed) =
        pushed condition ++ (rest.filter Condition.isPushable).flatMap pushed := by
      cases pushable : condition.isPushable with
      | true => rw [List.filter_cons_of_pos pushable, List.flatMap_cons]
      | false =>
        rw [List.filter_cons_of_neg (by simp [pushable]), pushed_eq_nil pushable, List.nil_append]
    have tests : (((condition :: rest).filter Condition.isResidual).all fun condition =>
          condition.holds (row.number? condition.column.name)) =
        ((!condition.isResidual || condition.holds (row.number? condition.column.name)) &&
          (rest.filter Condition.isResidual).all fun condition =>
            condition.holds (row.number? condition.column.name)) := by
      cases residual : condition.isResidual with
      | true => rw [List.filter_cons_of_pos residual, List.all_cons]; rfl
      | false => rw [List.filter_cons_of_neg (by simp [residual])]; rfl
    rw [List.all_cons, satisfies_eq, ih, filters, tests, List.all_append]
    ac_rfl

/-- The filters that the conditions on a side become. -/
def pushedFilters (descriptor : Descriptor) (side : Side) : List Filter :=
  ((descriptor.conditionsOn side).filter Condition.isPushable).flatMap pushed

/-- A row qualifies if the filters of its side admit it and it survives the residual conditions. -/
theorem qualifies_eq (descriptor : Descriptor) (side : Side) (row : Row) :
    qualifies descriptor side row =
      ((pushedFilters descriptor side).all (fun filter => filter.admits row) &&
        survives descriptor side row) :=
  all_satisfies row (descriptor.conditionsOn side)

/-- What a condition says of a row. A presence is one of a field that is not null; every other
condition is about the number in the field. -/
def IsTrueOf (row : Row) : Condition → Prop
  | .notNull column => ∃ value, row.stored? column.name = some value ∧ value ≠ .null
  | condition => condition.holds (row.number? condition.column.name) = true

/-- A row satisfies a condition exactly if the condition is true of it. -/
theorem satisfies_iff (row : Row) (condition : Condition) :
    satisfies row condition = true ↔ IsTrueOf row condition := by
  cases condition with
  | notNull column =>
    rw [satisfies, IsTrueOf, Row.get?]
    cases row.stored? column.name with
    | none => simp
    | some value => cases value <;> simp [Option.filter, Value.isNull]
  | between column min max upper => exact Iff.rfl
  | wrapped column start stop => exact Iff.rfl

/-- The select of a side admits a row and the row survives the residual conditions exactly if every
condition on that side is true of it.

What is sent of a condition and what is tested again come to the condition, form by form, and both
lists are gone through condition by condition. -/
theorem admits_scopedSelect_and_survives_iff (names : CollectionNames) (descriptor : Descriptor)
    (side : Side) (row : Row) :
    ((scopedSelect names descriptor side none).admits row = true ∧
        survives descriptor side row = true) ↔
      ∀ condition ∈ descriptor.conditionsOn side, IsTrueOf row condition := by
  have sent : (scopedSelect names descriptor side none).admits row =
      (pushedFilters descriptor side).all fun filter => filter.admits row := rfl
  rw [sent, ← Bool.and_eq_true, ← qualifies_eq, qualifies, List.all_eq_true]
  exact forall₂_congr fun condition _ => satisfies_iff row condition

/-- A projection that keeps the columns of the residual conditions keeps what they say of a row. -/
theorem survives_project {descriptor : Descriptor} {side : Side} {columns : List Column}
    (kept : ∀ condition ∈ descriptor.conditionsOn side, condition.isResidual = true →
      condition.column ∈ columns) (row : Row) :
    survives descriptor side (row.project (columns.map Column.name)) =
      survives descriptor side row := by
  rw [survives, survives, Bool.eq_iff_iff, List.all_eq_true, List.all_eq_true]
  refine forall₂_congr ?_
  intro condition member
  obtain ⟨onSide, residual⟩ := List.mem_filter.mp member
  rw [Row.number?_project (List.mem_map_of_mem (kept condition onSide residual))]

open Calendar (JulianRange)
open Geography (GeoBox)

/-- The conditions of a question by side: a position has to be known and to lie in the box and the
range, a measurement has to have the column of the topic. -/
theorem conditionsOn_ofTopic (topic : Topic) (box : Option GeoBox) (range : Option JulianRange)
    (side : Side) :
    (Descriptor.ofTopic topic box range).conditionsOn side =
      match side with
      | .locations =>
        [.notNull .latitude, .notNull .longitude] ++ (box.map Descriptor.boxConditions).getD [] ++
          (range.map Descriptor.rangeConditions).getD []
      | .measurements => topic.required?.toList.map .notNull := by
  have conditions : (Descriptor.ofTopic topic box range).conditions =
      [.notNull .latitude, .notNull .longitude] ++ (box.map Descriptor.boxConditions).getD [] ++
        (range.map Descriptor.rangeConditions).getD [] ++ topic.required?.toList.map .notNull := rfl
  have ofBox (box : GeoBox) :
      (Descriptor.boxConditions box).filter (fun condition => condition.side? = some side) =
        if side = .locations then Descriptor.boxConditions box else [] := by
    rw [Descriptor.boxConditions]
    cases side <;> split <;> rfl
  rw [Descriptor.conditionsOn, conditions, List.filter_append, List.filter_append,
    List.filter_append]
  cases box with
  | none => cases side <;> cases range <;> cases topic <;> rfl
  | some box =>
    rw [Option.map_some, Option.getD_some, ofBox]
    cases side <;> cases range <;> cases topic <;> rfl

/-- The rows that satisfy the conditions of a question are those that it is about. -/
theorem qualifies_ofTopic (topic : Topic) (box : Option GeoBox) (range : Option JulianRange) :
    qualifies (Descriptor.ofTopic topic box range) = NestedLoop.wanted topic box range := by
  funext side row
  cases side with
  | measurements =>
    rw [qualifies, conditionsOn_ofTopic, NestedLoop.wanted]
    cases topic <;> simp [Topic.required?, satisfies]
  | locations =>
    have inBox : ((box.map Descriptor.boxConditions).getD []).all (satisfies row) =
        box.all fun box =>
          ((row.number? Column.latitude.name).any fun lat =>
            decide (box.latMin ≤ lat ∧ lat ≤ box.latMax)) &&
          (row.number? Column.longitude.name).any fun lon =>
            if box.crossesAntimeridian then decide (box.lonMin ≤ lon ∨ lon ≤ box.lonMax)
            else decide (box.lonMin ≤ lon ∧ lon ≤ box.lonMax) := by
      cases box with
      | none => rfl
      | some box =>
        cases crosses : box.crossesAntimeridian <;>
          simp [Descriptor.boxConditions, crosses, satisfies, Condition.holds, Condition.column] <;>
          rfl
    have inRange : ((range.map Descriptor.rangeConditions).getD []).all (satisfies row) =
        range.all fun range => (row.number? Column.julianDay.name).any fun day =>
          decide (range.min ≤ day ∧ day < range.max) := by
      cases range with
      | none => rfl
      | some range =>
        simp [Descriptor.rangeConditions, satisfies, Condition.holds, Condition.column]
        rfl
    rw [qualifies, conditionsOn_ofTopic, List.all_append, List.all_append, inBox, inRange]
    simp [NestedLoop.wanted, satisfies]

end Join

end ArgoQuery
