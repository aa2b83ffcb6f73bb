import ArgoQuery.Json.Reader
import Mathlib.Data.List.Sort
import Mathlib.Data.String.Basic

/-!
# Objects sorted by name

The fields of an object are put in one after the other, each behind those of lower names. The fields
of an object are then in ascending order of their names, and if no name occurs twice they are those
that were put in: `sortedObject_eq`.
-/

namespace ArgoQuery

namespace Json

variable {name : String} {value : Json} {fields : List (String × Json)}

/-- A field of a new name is added to the others. -/
theorem putField_perm (fresh : name ∉ fields.map Prod.fst) :
    (putField name value fields).Perm ((name, value) :: fields) := by
  induction fields with
  | nil => exact List.Perm.refl _
  | cons field rest ih =>
    obtain ⟨different, others⟩ := not_or.mp (mt List.mem_cons.mpr fresh)
    rw [putField, if_neg different]
    split_ifs
    · exact List.Perm.refl _
    · exact ((ih others).cons field).trans (List.Perm.swap ..)

/-- Putting a field brings no field but that one. -/
theorem mem_of_mem_putField {field : String × Json} (member : field ∈ putField name value fields) :
    field = (name, value) ∨ field ∈ fields := by
  induction fields with
  | nil => exact .inl (List.mem_singleton.mp member)
  | cons first rest ih =>
    rw [putField] at member
    split_ifs at member with same before
    · exact (List.mem_cons.mp member).imp_right (List.mem_cons_of_mem _)
    · exact List.mem_cons.mp member
    · rcases List.mem_cons.mp member with here | later
      · exact .inr (here ▸ List.mem_cons_self)
      · exact (ih later).imp_right (List.mem_cons_of_mem _)

/-- Fields stay in the order of their names when one is put among them. -/
theorem putField_ascending (ascending : fields.Pairwise fun left right => left.1 < right.1) :
    (putField name value fields).Pairwise fun left right => left.1 < right.1 := by
  induction fields with
  | nil => exact List.pairwise_singleton ..
  | cons field rest ih =>
    obtain ⟨first, later⟩ := List.pairwise_cons.mp ascending
    rw [putField]
    split_ifs with same before
    · exact List.pairwise_cons.mpr ⟨fun other member => same ▸ first other member, later⟩
    · refine List.pairwise_cons.mpr ⟨?_, ascending⟩
      refine List.forall_mem_cons.mpr ⟨before, fun other member => ?_⟩
      exact Std.lt_trans before (first other member)
    · have behind : field.1 < name := Std.lt_of_le_of_ne (Std.not_lt.mp before) (Ne.symm same)
      refine List.pairwise_cons.mpr ⟨fun other member => ?_, ih later⟩
      rcases mem_of_mem_putField member with rfl | member
      · exact behind
      · exact first other member

/-- Fields that are put one after the other into sorted ones are sorted with them, whatever their
names, and no field comes from elsewhere. -/
theorem foldl_putField_ascending {sorted : List (String × Json)}
    (ascending : sorted.Pairwise fun left right => left.1 < right.1) :
    let whole := fields.foldl (fun sorted field => putField field.1 field.2 sorted) sorted
    whole.Pairwise (fun left right => left.1 < right.1) ∧
      ∀ field ∈ whole, field ∈ fields ∨ field ∈ sorted := by
  induction fields generalizing sorted with
  | nil => exact ⟨ascending, fun _ member => .inr member⟩
  | cons field rest ih =>
    obtain ⟨order, origin⟩ := ih (putField_ascending ascending)
    refine ⟨order, fun other member => ?_⟩
    rcases origin other member with later | placed
    · exact .inl (List.mem_cons_of_mem _ later)
    · rcases mem_of_mem_putField placed with rfl | held
      · exact .inl List.mem_cons_self
      · exact .inr held

/-- If all names are different, then no field is lost. -/
theorem foldl_putField_perm {sorted : List (String × Json)}
    (distinct : ((fields ++ sorted).map Prod.fst).Nodup) :
    (fields.foldl (fun sorted field => putField field.1 field.2 sorted) sorted).Perm
      (fields ++ sorted) := by
  induction fields generalizing sorted with
  | nil => exact List.Perm.refl _
  | cons field rest ih =>
    obtain ⟨fresh, -⟩ := List.nodup_cons.mp distinct
    have alone : field.1 ∉ sorted.map Prod.fst := by
      intro member
      exact fresh (by simpa using Or.inr (List.mem_map.mp member))
    have placed : (putField field.1 field.2 sorted).Perm (field :: sorted) := putField_perm alone
    have perm : (rest ++ putField field.1 field.2 sorted).Perm (field :: rest ++ sorted) :=
      (placed.append_left rest).trans List.perm_middle
    exact (ih ((perm.map Prod.fst).nodup_iff.mpr distinct)).trans perm

/-- The fields of a sorted object are in ascending order, each one of those that it was made of. -/
theorem exists_sortedObject_eq (fields : List (String × Json)) :
    ∃ sorted, sortedObject fields = object sorted ∧
      sorted.Pairwise (fun left right => left.1 < right.1) ∧ ∀ field ∈ sorted, field ∈ fields := by
  obtain ⟨order, origin⟩ := foldl_putField_ascending List.Pairwise.nil
  exact ⟨_, rfl, order, fun field member => (origin field member).resolve_right List.not_mem_nil⟩

/-- Fields of distinct names are sorted by name. -/
theorem sortedObject_eq (distinct : (fields.map Prod.fst).Nodup) :
    sortedObject fields = object (fields.insertionSort fun left right => left.1 ≤ right.1) := by
  rw [← List.append_nil fields] at distinct
  obtain ⟨ascending, -⟩ := foldl_putField_ascending List.Pairwise.nil
  have perm := foldl_putField_perm distinct
  rw [List.append_nil] at perm distinct
  have total : Std.Total fun left right : String × Json => left.1 ≤ right.1 :=
    ⟨fun left right => Std.le_total⟩
  have transitive : IsTrans (String × Json) fun left right => left.1 ≤ right.1 :=
    ⟨fun _ _ _ => Std.le_trans⟩
  have sorted := List.pairwise_insertionSort (fun left right => left.1 ≤ right.1) fields
  refine congrArg object (List.Perm.eq_of_pairwise ?_ (ascending.imp Std.le_of_lt) sorted
    (perm.trans (List.perm_insertionSort ..).symm))
  intro left right member member' one two
  exact List.inj_on_of_nodup_map distinct (perm.subset member)
    ((List.perm_insertionSort ..).subset member') (Std.le_antisymm one two)

/-- Fields in ascending order stay where they are. -/
theorem sortedObject_of_ascending
    (ascending : fields.Pairwise fun left right => left.1 < right.1) :
    sortedObject fields = object fields := by
  have distinct : (fields.map Prod.fst).Nodup :=
    List.pairwise_map.mpr (ascending.imp fun before => Std.ne_of_lt before)
  rw [sortedObject_eq distinct, (ascending.imp Std.le_of_lt).insertionSort_eq]

end Json

end ArgoQuery
