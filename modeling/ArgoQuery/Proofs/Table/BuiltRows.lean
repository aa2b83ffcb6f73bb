import ArgoQuery.Proofs.Table.Payloads

/-!
# Rows that are built step by step

`IsBuilt` says how a row comes about: it starts empty or is read from an object, and then fields are
set and put in order, in any sequence. No step makes a name occur twice: `IsBuilt.nodup`. That is
what the other statements rest on, because only the first field of a name is ever found.

Putting fields in order leaves the others as they were, `reorderFields_eq`, and it changes nothing
of what is held. So doing it again finds everything in place: `reorderFields_reorderFields`. Main
statement: `fields_of_isBuilt`.
-/

namespace ArgoQuery.Row

/-- Whether a row comes about by reading an object, setting fields and putting fields in order. -/
inductive IsBuilt : Row → Prop where
  | empty : IsBuilt empty
  | read {object : List (String × Json)} {row : Row} (distinct : (object.map Prod.fst).Nodup)
      (read : ofJson (.object object) = .ok row) : IsBuilt row
  | insert {row : Row} (built : IsBuilt row) (name : String) (value : Value) :
      IsBuilt (row.insert name value)
  | reorder {row : Row} (built : IsBuilt row) (names : List String) :
      IsBuilt (row.reorder names)

/-- A known field is set where it stands. -/
theorem fields_insert_of_mem {row : Row} {name : String} (value : Value)
    (distinct : (row.fields.map Prod.fst).Nodup) (known : name ∈ row.fields.map Prod.fst) :
    (row.insert name value).fields =
      row.fields.map fun field => if field.1 = name then (name, value) else field := by
  obtain ⟨fields⟩ := row
  dsimp only [insert] at *
  induction fields with
  | nil => cases known
  | cons field rest ih =>
    obtain ⟨own, held⟩ := field
    obtain ⟨fresh, others⟩ := List.nodup_cons.mp distinct
    rw [insertField, List.map_cons]
    by_cases same : own = name
    · subst same
      have untouched : rest.map (fun field => if field.1 = own then (own, value) else field) =
          rest := by
        refine (List.map_congr_left fun field member => ?_).trans (List.map_id rest)
        apply if_neg
        rintro rfl
        exact fresh (List.mem_map.mpr ⟨field, member, rfl⟩)
      rw [if_pos rfl, if_pos rfl, untouched]
    · have later := (List.mem_cons.mp known).resolve_left (Ne.symm same)
      rw [if_neg same, if_neg same, ih others later]

section Fields

variable {fields : List (String × Value)}

/-- No field is lost, and none is added. -/
theorem reorderFields_perm (names : List String) (fields : List (String × Value)) :
    (reorderFields names fields).Perm fields := by
  induction names generalizing fields with
  | nil => exact List.Perm.refl fields
  | cons name names ih =>
    rw [reorderFields]
    cases taken : extract? name fields with
    | none => exact ih fields
    | some found =>
      obtain ⟨field, others⟩ := found
      exact ((ih others).cons field).trans (perm_of_extract? taken)

/-- Fields that are in order stay where they are. -/
theorem reorderFields_reorderFields (distinct : (fields.map Prod.fst).Nodup)
    (names : List String) :
    reorderFields names (reorderFields names fields) = reorderFields names fields := by
  have distinct' : ((reorderFields names fields).map Prod.fst).Nodup :=
    ((reorderFields_perm names fields).map Prod.fst).nodup_iff.mpr distinct
  have held : stored? ⟨reorderFields names fields⟩ = stored? ⟨fields⟩ :=
    funext (stored?_reorder ⟨fields⟩ names)
  have rest : (reorderFields names fields).filter (fun field => field.1 ∉ names) =
      fields.filter fun field => field.1 ∉ names := by
    rw [reorderFields_eq distinct, List.filter_append, List.filter_filter]
    have named : (fieldsOf (stored? ⟨fields⟩) names.eraseDups).filter
        (fun field => field.1 ∉ names) = [] := by
      rw [List.filter_eq_nil_iff]
      intro field member
      have among := (names_fieldsOf_sublist _ _).subset (List.mem_map.mpr ⟨field, member, rfl⟩)
      simpa using List.mem_eraseDups.mp among
    simp only [named, Bool.and_self, List.nil_append]
  rw [reorderFields_eq distinct', held, rest, ← reorderFields_eq distinct]

end Fields

/-- No step makes a name occur twice. -/
theorem IsBuilt.nodup {row : Row} (built : row.IsBuilt) : (row.fields.map Prod.fst).Nodup := by
  induction built with
  | empty => exact List.nodup_nil
  | read distinct read =>
    obtain ⟨_, same, matching⟩ := ofJson_eq_ok_iff.mp read
    cases same
    rwa [map_eq_map_of_forall₂ matching fun _ _ field => field.1]
  | insert _ name value ih => exact nodup_insert ih name value
  | @reorder row _ names ih =>
    exact ((reorderFields_perm names row.fields).map Prod.fst).nodup_iff.mpr ih

/-- What holds of the fields of every row that is built.

No name occurs twice. Setting a field changes what is found under its name and under no other; a
known field is set where it stands, and a new one at the end. Putting the fields in the order of any
names neither loses nor adds one, and leaves what is found under every name. First come the fields
of the names that are there, by the first occurrences of these names, and then all others in the
order they had. Doing it again changes nothing.

That no name occurs twice is kept by every step of building, and the rest follows from it for any
row. -/
theorem fields_of_isBuilt {row : Row} (built : row.IsBuilt) :
    (row.fields.map Prod.fst).Nodup ∧
    (∀ name value,
      (∀ other, (row.insert name value).get? other =
        if other = name then (some value).filter fun value => !value.isNull
        else row.get? other) ∧
      (row.insert name value).fields =
        if name ∈ row.fields.map Prod.fst then
          row.fields.map fun field => if field.1 = name then (name, value) else field
        else row.fields ++ [(name, value)]) ∧
    ∀ names,
      (row.reorder names).fields.Perm row.fields ∧
      (∀ name, (row.reorder names).get? name = row.get? name) ∧
      (∃ first, (row.reorder names).fields =
          first ++ row.fields.filter (fun field => field.1 ∉ names) ∧
        first.map Prod.fst =
          names.eraseDups.filter fun name => name ∈ row.fields.map Prod.fst) ∧
      (row.reorder names).reorder names = row.reorder names := by
  have distinct := built.nodup
  refine ⟨distinct, fun name value => ⟨fun other => get?_insert row name other value, ?_⟩,
    fun names => ⟨reorderFields_perm names row.fields, get?_reorder row names, ?_, ?_⟩⟩
  · split_ifs with known
    · exact fields_insert_of_mem value distinct known
    · exact fields_insert known
  · refine ⟨_, reorderFields_eq distinct names, ?_⟩
    rw [names_fieldsOf]
    refine List.filter_congr fun name _ => ?_
    rw [Bool.eq_iff_iff, decide_eq_true_iff]
    exact isSome_stored?_iff
  · exact congrArg Row.mk (reorderFields_reorderFields distinct names)

/-- A row that is read, has a field set and is put in order by names that are repeated or absent. -/
theorem fields_of_isBuilt_read :
    let object : List (String × Json) :=
      [("cycle_number", .int 2), ("float_id", .text "7"), ("juld", .null)]
    let read : Row := ⟨[("cycle_number", .int 2), ("float_id", .text "7"), ("juld", .null)]⟩
    let names := ["latitude", "float_id", "salinity", "float_id", "juld"]
    ((object.map Prod.fst).Nodup ∧ ofJson (.object object) = .ok read) ∧
      (read.insert "latitude" (.int 10)).IsBuilt ∧
      ((read.insert "latitude" (.int 10)).reorder names).fields =
        [("latitude", .int 10), ("float_id", .text "7"), ("juld", .null),
          ("cycle_number", .int 2)] ∧
      ((read.insert "latitude" (.int 10)).reorder names).fields.Perm
        (read.insert "latitude" (.int 10)).fields ∧
      ((read.insert "latitude" (.int 10)).reorder names).reorder names =
        (read.insert "latitude" (.int 10)).reorder names := by
  intro object read names
  have distinct : (object.map Prod.fst).Nodup := by decide
  have reads : ofJson (.object object) = .ok read := rfl
  have built : (read.insert "latitude" (.int 10)).IsBuilt := .insert (.read distinct reads) _ _
  obtain ⟨perm, -, -, again⟩ := (fields_of_isBuilt built).2.2 names
  exact ⟨⟨distinct, reads⟩, built, by decide, perm, again⟩

end ArgoQuery.Row
