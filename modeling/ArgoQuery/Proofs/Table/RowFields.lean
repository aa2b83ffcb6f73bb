import ArgoQuery.Table.Row
import Mathlib.Data.List.Basic

/-!
# Fields of rows

What a row holds after a field is set, after it is cut down to some names and after its fields are
put in order. A field that is set under a new name goes to the end (`fields_insert`), a projection
holds what the row holds under the names and nothing else (`stored?_project`). Putting fields in
order leaves what is held under every name (`stored?_reorder`).

The names take one field after the other out of the rest, and a name that is repeated or absent
takes nothing, so the named fields come first and then what is left (`reorderFields_eq`). If there
is a place for every field, nothing else of the row counts than what it holds
(`reorderFields_eq_fieldsOf`), and fields that follow the names already stay where they are
(`reorderFields_fieldsOf`).
-/

namespace ArgoQuery.Row

/-- Setting a field changes what is held under its name and under no other. -/
@[simp]
theorem stored?_insert (row : Row) (name other : String) (value : Value) :
    (row.insert name value).stored? other =
      if other = name then some value else row.stored? other := by
  obtain ⟨fields⟩ := row
  induction fields with
  | nil =>
    by_cases asked : other = name
    · simp [insert, insertField, stored?, asked]
    · simp [insert, insertField, stored?, asked, Ne.symm asked]
  | cons field rest ih =>
    obtain ⟨own, old⟩ := field
    simp only [insert, stored?] at ih
    simp only [insert, insertField, stored?]
    by_cases same : own = name
    · subst same
      by_cases asked : own = other
      · simp [asked]
      · simp [asked, Ne.symm asked]
    · rw [if_neg same]
      by_cases asked : own = other
      · subst asked
        simp [same]
      · simpa [asked] using ih

/-- A field under a new name goes to the end. -/
theorem fields_insert {row : Row} {name : String} {value : Value}
    (fresh : name ∉ row.fields.map Prod.fst) :
    (row.insert name value).fields = row.fields ++ [(name, value)] := by
  obtain ⟨fields⟩ := row
  induction fields with
  | nil => rfl
  | cons field rest ih =>
    obtain ⟨different, others⟩ := not_or.mp (mt List.mem_cons.mpr fresh)
    simp only [insert] at ih
    simp only [insert, insertField, if_neg (Ne.symm different), ih others]
    rfl

/-- Setting a field keeps the names where they are, and adds one that is new. -/
theorem names_insert (row : Row) (name : String) (value : Value) :
    (row.insert name value).fields.map Prod.fst =
      if name ∈ row.fields.map Prod.fst then row.fields.map Prod.fst
      else row.fields.map Prod.fst ++ [name] := by
  obtain ⟨fields⟩ := row
  rw [insert]
  induction fields with
  | nil => rfl
  | cons field rest ih =>
    obtain ⟨own, held⟩ := field
    dsimp only at ih ⊢
    rw [insertField, List.map_cons]
    by_cases same : own = name
    · subst same
      rw [if_pos rfl, if_pos List.mem_cons_self]
      rfl
    · rw [if_neg same, List.map_cons, ih]
      by_cases later : name ∈ rest.map Prod.fst
      · rw [if_pos later, if_pos (List.mem_cons_of_mem _ later)]
      · rw [if_neg later, if_neg (List.not_mem_cons_of_ne_of_not_mem (Ne.symm same) later)]
        rfl

/-- Setting a field repeats no name. -/
theorem nodup_insert {row : Row} (distinct : (row.fields.map Prod.fst).Nodup) (name : String)
    (value : Value) : ((row.insert name value).fields.map Prod.fst).Nodup := by
  rw [names_insert]
  split_ifs with known
  · exact distinct
  · rw [List.nodup_append]
    refine ⟨distinct, List.pairwise_singleton .., ?_⟩
    rintro other member _ last rfl
    exact known (List.mem_singleton.mp last ▸ member)

/-- A row that is built from a list repeats no name. -/
@[simp]
theorem nodup_ofList (fields : List (String × Value)) :
    ((ofList fields).fields.map Prod.fst).Nodup := by
  have run (rest : List (String × Value)) (row : Row)
      (distinct : (row.fields.map Prod.fst).Nodup) :
      ((rest.foldl (fun row field => row.insert field.1 field.2) row).fields.map
        Prod.fst).Nodup := by
    induction rest generalizing row with
    | nil => exact distinct
    | cons field rest ih => exact ih _ (nodup_insert distinct field.1 field.2)
  exact run fields empty List.nodup_nil

/-- Setting fields of distinct names one after the other gives the row of these fields. -/
theorem fields_ofList {fields : List (String × Value)} (distinct : (fields.map Prod.fst).Nodup) :
    (ofList fields).fields = fields := by
  have run (rest : List (String × Value)) (row : Row)
      (distinct : ((row.fields ++ rest).map Prod.fst).Nodup) :
      (rest.foldl (fun row field => row.insert field.1 field.2) row).fields =
        row.fields ++ rest := by
    induction rest generalizing row with
    | nil => simp
    | cons field rest ih =>
      have fresh : field.1 ∉ row.fields.map Prod.fst := by
        rw [List.map_append, List.nodup_append] at distinct
        intro member
        exact distinct.2.2 _ member _ List.mem_cons_self rfl
      have placed : (row.insert field.1 field.2).fields = row.fields ++ [field] :=
        fields_insert fresh
      rw [List.foldl_cons, ih _ (by simpa [placed] using distinct), placed]
      simp
  exact run fields empty distinct

/-- Setting a field changes what is found under its name and under no other. -/
@[simp]
theorem get?_insert (row : Row) (name other : String) (value : Value) :
    (row.insert name value).get? other =
      if other = name then (some value).filter fun value => !value.isNull else row.get? other := by
  rw [get?, stored?_insert]
  by_cases same : other = name
  · rw [if_pos same, if_pos same]
  · rw [if_neg same, if_neg same, get?]

/-- A projection holds under its names what the row holds, and nothing under other names. -/
@[simp]
theorem stored?_project (row : Row) (names : List String) (name : String) :
    (row.project names).stored? name = if name ∈ names then row.stored? name else none := by
  have run (names : List String) (start : Row) :
      ((names.filterMap fun name => (row.stored? name).map (name, ·)).foldl
          (fun row field => row.insert field.1 field.2) start).stored? name =
        ((if name ∈ names then row.stored? name else none).or (start.stored? name)) := by
    induction names generalizing start with
    | nil => simp
    | cons first rest ih =>
      cases held : row.stored? first with
      | none =>
        rw [List.filterMap_cons_none (by simp [held]), ih]
        by_cases asked : name = first
        · simp [asked, held]
        · simp [asked]
      | some value =>
        simp only [List.filterMap_cons, held, Option.map_some, List.foldl_cons, ih, stored?_insert]
        by_cases asked : name = first
        · by_cases later : first ∈ rest <;> simp [asked, held, later]
        · simp [asked]
  have nothing : empty.stored? name = none := rfl
  have whole := run names empty
  rw [nothing, Option.or_none] at whole
  exact whole

section Project

variable {row : Row} {names : List String} {name : String}

/-- A projection changes nothing under the names that it keeps. -/
@[simp]
theorem get?_project (member : name ∈ names) : (row.project names).get? name = row.get? name := by
  rw [get?, stored?_project, if_pos member, get?]

/-- A projection changes no number under the names that it keeps. -/
@[simp]
theorem number?_project (member : name ∈ names) :
    (row.project names).number? name = row.number? name := by
  simp [number?, member]

/-- A projection changes no key under the names that it keeps. -/
@[simp]
theorem key?_project (member : name ∈ names) : (row.project names).key? name = row.key? name := by
  simp [key?, member]

end Project

/-- It does not matter whether repetitions are left out before or after a choice. What is not kept
is not among the kept items, so its repetitions are left out already. -/
theorem eraseDups_filter {Item : Type} [BEq Item] [LawfulBEq Item] (keeps : Item → Bool)
    (items : List Item) : (items.filter keeps).eraseDups = items.eraseDups.filter keeps := by
  match items with
  | [] => rfl
  | item :: rest =>
    have others := eraseDups_filter keeps (rest.filter fun other => !other == item)
    rw [List.eraseDups_cons]
    by_cases kept : keeps item = true
    · rw [List.filter_cons_of_pos kept, List.filter_cons_of_pos kept, List.eraseDups_cons, ← others,
        List.filter_filter, List.filter_filter]
      simp only [Bool.and_comm]
    · have absent : (rest.filter fun other => !other == item).filter keeps = rest.filter keeps := by
        rw [List.filter_filter]
        refine List.filter_congr fun other _ => ?_
        by_cases same : other = item
        · simp [same, kept]
        · simp [same]
      rw [List.filter_cons_of_neg kept, List.filter_cons_of_neg kept, ← others, absent]
termination_by items.length
decreasing_by exact Nat.lt_succ_of_le (List.length_filter_le _ _)

/-- Items that are distinct have no repetitions to leave out. -/
theorem eraseDups_of_nodup {Item : Type} [BEq Item] [LawfulBEq Item] {items : List Item}
    (distinct : items.Nodup) : items.eraseDups = items := by
  induction items with
  | nil => rfl
  | cons item rest ih =>
    obtain ⟨fresh, others⟩ := List.nodup_cons.mp distinct
    have single : rest.filter (fun other => !other == item) = rest := by
      rw [List.filter_eq_self]
      intro other member
      have apart : other ≠ item := fun same => fresh (same ▸ member)
      simp [apart]
    rw [List.eraseDups_cons, single, ih others]

/-- The fields that are held under some names, in the order of the names. -/
def fieldsOf (held : String → Option Value) (names : List String) : List (String × Value) :=
  names.filterMap fun name => (held name).map (name, ·)

/-- The names of fields by name are those under which something is held. -/
theorem names_fieldsOf (held : String → Option Value) (names : List String) :
    (fieldsOf held names).map Prod.fst = names.filter fun name => (held name).isSome := by
  induction names with
  | nil => rfl
  | cons name rest ih =>
    cases found : held name with
    | none => simpa [fieldsOf, found] using ih
    | some value => simpa [fieldsOf, found] using ih

/-- The names of listed fields are some of the names that they are listed for, in their order. -/
theorem names_fieldsOf_sublist (held : String → Option Value) (names : List String) :
    ((fieldsOf held names).map Prod.fst).Sublist names := by
  rw [names_fieldsOf]
  exact List.filter_sublist

/-- The fields for two lists of names are listed one after the other. -/
@[simp]
theorem fieldsOf_append (held : String → Option Value) (first second : List String) :
    fieldsOf held (first ++ second) = fieldsOf held first ++ fieldsOf held second :=
  List.filterMap_append

/-- Fields depend only on what is held under their names. -/
theorem fieldsOf_congr {held other : String → Option Value} {names : List String}
    (same : ∀ name ∈ names, held name = other name) : fieldsOf held names = fieldsOf other names :=
  List.filterMap_congr fun name member => by rw [same name member]

/-- It does not matter whether a choice is made among the names or of what is held under them. -/
theorem fieldsOf_filter (held : String → Option Value) (keeps : String → Bool)
    (names : List String) :
    fieldsOf held (names.filter keeps) =
      fieldsOf (fun name => if keeps name then held name else none) names := by
  induction names with
  | nil => rfl
  | cons name rest ih =>
    by_cases kept : keeps name = true
    · rw [List.filter_cons_of_pos kept]
      simp only [fieldsOf, List.filterMap_cons, if_pos kept] at ih ⊢
      rw [ih]
    · rw [List.filter_cons_of_neg kept, ih]
      simp [fieldsOf, kept]

/-- A name takes its field once. -/
theorem fieldsOf_eraseDups_cons (held : String → Option Value) (name : String)
    (names : List String) :
    fieldsOf held (name :: names).eraseDups =
      ((held name).map (name, ·)).toList ++
        fieldsOf (fun other => if other ≠ name then held other else none) names.eraseDups := by
  have others : fieldsOf held (names.filter fun other => !other == name).eraseDups =
      fieldsOf (fun other => if other ≠ name then held other else none) names.eraseDups := by
    rw [eraseDups_filter, fieldsOf_filter]
    refine fieldsOf_congr fun other _ => ?_
    by_cases same : other = name <;> simp [same]
  rw [List.eraseDups_cons, ← others]
  cases found : held name <;> simp [fieldsOf, found]

/-- Fields by name hold under each of the names what is held under it. -/
@[simp]
theorem stored?_fieldsOf (held : String → Option Value) (names : List String) (name : String) :
    stored? ⟨fieldsOf held names⟩ name = if name ∈ names then held name else none := by
  induction names with
  | nil => rfl
  | cons first rest ih =>
    rw [stored?] at ih
    cases found : held first with
    | none =>
      have skipped : fieldsOf held (first :: rest) = fieldsOf held rest := by
        simp [fieldsOf, found]
      rw [stored?, skipped, ih]
      by_cases asked : name = first
      · simp [asked, found]
      · simp [asked]
    | some value =>
      have placed : fieldsOf held (first :: rest) = (first, value) :: fieldsOf held rest := by
        simp [fieldsOf, found]
      rw [stored?, placed, List.find?_cons]
      by_cases asked : name = first
      · simp [asked, found]
      · simpa [asked, beq_false_of_ne (Ne.symm asked)] using ih

/-- A projection onto distinct names has the fields of these names in their order. -/
theorem fields_project (row : Row) {names : List String} (distinct : names.Nodup) :
    (row.project names).fields = fieldsOf row.stored? names :=
  fields_ofList (distinct.sublist (names_fieldsOf_sublist row.stored? names))

/-- No name occurs twice in a projection, even if it is asked for twice. -/
theorem nodup_project (row : Row) (names : List String) :
    ((row.project names).fields.map Prod.fst).Nodup := nodup_ofList _

/-- The first field decides under its own name, and the others under any other. -/
@[simp]
theorem stored?_cons (field : String × Value) (rest : List (String × Value)) (name : String) :
    stored? ⟨field :: rest⟩ name =
      if field.1 = name then some field.2 else stored? ⟨rest⟩ name := by
  rw [stored?, List.find?_cons]
  by_cases same : field.1 = name
  · simp [same]
  · simp [beq_false_of_ne same, same, stored?]

/-- Something is stored under exactly the names of the fields. -/
@[simp]
theorem isSome_stored?_iff {row : Row} {name : String} :
    (row.stored? name).isSome = true ↔ name ∈ row.fields.map Prod.fst := by
  rw [stored?, Option.isSome_map, List.find?_isSome, List.mem_map]
  simp only [beq_iff_eq]

/-- Under distinct names every field is held. -/
theorem stored?_eq_some_iff {fields : List (String × Value)}
    (distinct : (fields.map Prod.fst).Nodup) {name : String} {value : Value} :
    stored? ⟨fields⟩ name = some value ↔ (name, value) ∈ fields := by
  induction fields with
  | nil => simp [stored?]
  | cons field rest ih =>
    obtain ⟨fresh, others⟩ := List.nodup_cons.mp distinct
    rw [stored?_cons, List.mem_cons]
    by_cases asked : field.1 = name
    · have absent : (name, value) ∉ rest := by
        intro member
        exact fresh (asked ▸ List.mem_map_of_mem member)
      rw [if_pos asked, Option.some.injEq, or_iff_left absent, Prod.ext_iff]
      simp [asked, eq_comm]
    · have apart : (name, value) ≠ field := by
        rintro rfl
        exact asked rfl
      rw [if_neg asked, ih others, or_iff_right apart]

/-- Fields of distinct names hold the same in any order. -/
theorem stored?_perm {fields others : List (String × Value)} (perm : fields.Perm others)
    (distinct : (fields.map Prod.fst).Nodup) (name : String) :
    stored? ⟨fields⟩ name = stored? ⟨others⟩ name := by
  have distinct' : (others.map Prod.fst).Nodup := (perm.map Prod.fst).nodup_iff.mp distinct
  refine Option.ext fun value => ?_
  rw [stored?_eq_some_iff distinct, stored?_eq_some_iff distinct', perm.mem_iff]

/-- What is taken out under a name has it. -/
theorem name_of_extract? {name : String} {field : String × Value}
    {fields others : List (String × Value)}
    (taken : extract? name fields = some (field, others)) : field.1 = name := by
  induction fields generalizing others with
  | nil => cases taken
  | cons first rest ih =>
    rw [extract?] at taken
    split_ifs at taken with found
    · cases taken
      exact found
    · obtain ⟨⟨field', others'⟩, later, same⟩ := Option.map_eq_some_iff.mp taken
      cases same
      exact ih later

/-- What is held does not change if the first field of a name is put before all others. -/
theorem stored?_of_extract? {name : String} {field : String × Value}
    {fields others : List (String × Value)} (taken : extract? name fields = some (field, others))
    (other : String) : stored? ⟨field :: others⟩ other = stored? ⟨fields⟩ other := by
  induction fields generalizing others with
  | nil => cases taken
  | cons first rest ih =>
    rw [extract?] at taken
    split_ifs at taken with found
    · cases taken
      rfl
    · obtain ⟨⟨field', others'⟩, later, same⟩ := Option.map_eq_some_iff.mp taken
      cases same
      have own : field.1 = name := name_of_extract? later
      have behind := ih later
      rw [stored?_cons] at behind ⊢
      rw [stored?_cons, stored?_cons first rest, ← behind]
      by_cases asked : field.1 = other
      · have apart : first.1 ≠ other := by
          intro same
          exact found (same.trans (asked.symm.trans own))
        rw [if_pos asked, if_pos asked, if_neg apart]
      · rw [if_neg asked, if_neg asked]

/-- What is taken out and what is left are the fields. -/
theorem perm_of_extract? {name : String} {field : String × Value}
    {fields others : List (String × Value)}
    (taken : extract? name fields = some (field, others)) : (field :: others).Perm fields := by
  induction fields generalizing others with
  | nil => cases taken
  | cons first rest ih =>
    rw [extract?] at taken
    split_ifs at taken with found
    · cases taken
      exact List.Perm.refl _
    · obtain ⟨⟨field', others'⟩, later, same⟩ := Option.map_eq_some_iff.mp taken
      cases same
      exact (List.Perm.swap ..).trans ((ih later).cons first)

/-- Without the fields of a name nothing is held under it. -/
theorem stored?_filter_ne (fields : List (String × Value)) (name other : String) :
    stored? ⟨fields.filter fun field => field.1 ≠ name⟩ other =
      if other ≠ name then stored? ⟨fields⟩ other else none := by
  induction fields with
  | nil => simp [stored?]
  | cons field rest ih =>
    by_cases own : field.1 = name
    · rw [List.filter_cons_of_neg (by simpa using own), ih, stored?_cons]
      by_cases asked : other = name
      · simp [asked]
      · simp [asked, own, Ne.symm asked]
    · rw [List.filter_cons_of_pos (by simpa using own), stored?_cons, stored?_cons, ih]
      by_cases asked : field.1 = other
      · subst asked
        simp [own]
      · simp [asked]

/-- The field of a name is the only one, and it is taken out of the others. -/
theorem extract?_eq {fields : List (String × Value)}
    (distinct : (fields.map Prod.fst).Nodup) (name : String) :
    extract? name fields =
      (stored? ⟨fields⟩ name).map fun value =>
        ((name, value), fields.filter fun field => field.1 ≠ name) := by
  induction fields with
  | nil => rfl
  | cons field rest ih =>
    obtain ⟨fresh, others⟩ := List.nodup_cons.mp distinct
    rw [extract?, stored?_cons]
    by_cases own : field.1 = name
    · subst own
      have single : rest.filter (fun other => other.1 ≠ field.1) = rest := by
        rw [List.filter_eq_self]
        intro other member
        apply decide_eq_true
        intro same
        exact fresh (same ▸ List.mem_map_of_mem member)
      rw [if_pos rfl, if_pos rfl, List.filter_cons_of_neg (by simp), single]
      rfl
    · rw [if_neg own, if_neg own, ih others, List.filter_cons_of_pos (by simpa using own)]
      cases stored? ⟨rest⟩ name <;> rfl

/-- Fields in order: those that are named, each once and by the first occurrences of the names, and
then all others as they were. -/
theorem reorderFields_eq {fields : List (String × Value)}
    (distinct : (fields.map Prod.fst).Nodup) (names : List String) :
    reorderFields names fields =
      fieldsOf (stored? ⟨fields⟩) names.eraseDups ++
        fields.filter fun field => field.1 ∉ names := by
  induction names generalizing fields with
  | nil => simp [reorderFields, fieldsOf]
  | cons name names ih =>
    rw [reorderFields, extract?_eq distinct, fieldsOf_eraseDups_cons]
    cases found : stored? ⟨fields⟩ name with
    | none =>
      have absent : ∀ field ∈ fields, field.1 ≠ name := by
        rintro field member rfl
        have known := isSome_stored?_iff.mpr (List.mem_map.mpr ⟨field, member, rfl⟩)
        simp [found] at known
      have held (other : String) :
          (if other ≠ name then stored? ⟨fields⟩ other else none) = stored? ⟨fields⟩ other := by
        by_cases same : other = name <;> simp [same, found]
      simp only [held]
      refine (ih distinct).trans (congrArg _ (List.filter_congr fun field member => ?_))
      simp [absent field member]
    | some value =>
      have others : ((fields.filter fun field => field.1 ≠ name).map Prod.fst).Nodup :=
        distinct.sublist (List.filter_sublist.map Prod.fst)
      simp only [← stored?_filter_ne]
      refine congrArg ((name, value) :: ·) ((ih others).trans (congrArg _ ?_))
      rw [List.filter_filter]
      refine List.filter_congr fun field _ => ?_
      simp [Bool.and_comm]

/-- Fields of distinct names, all among the given ones, end up in the order of these. -/
theorem reorderFields_eq_fieldsOf {names : List String} {fields : List (String × Value)}
    (distinct : names.Nodup) (own : (fields.map Prod.fst).Nodup)
    (within : ∀ field ∈ fields, field.1 ∈ names) :
    reorderFields names fields = fieldsOf (stored? ⟨fields⟩) names := by
  have rest : fields.filter (fun field => field.1 ∉ names) = [] := by
    rw [List.filter_eq_nil_iff]
    intro field member
    simpa using within field member
  rw [reorderFields_eq own, eraseDups_of_nodup distinct, rest, List.append_nil]

/-- Fields that follow distinct names already stay as they are when they are put in the order of the
names. -/
theorem reorderFields_fieldsOf (held : String → Option Value) {names : List String}
    (distinct : names.Nodup) :
    reorderFields names (fieldsOf held names) = fieldsOf held names := by
  have ofNames := names_fieldsOf_sublist held names
  rw [reorderFields_eq_fieldsOf distinct (distinct.sublist ofNames) fun field member =>
    ofNames.subset (List.mem_map_of_mem member)]
  refine fieldsOf_congr fun name member => ?_
  rw [stored?_fieldsOf, if_pos member]

/-- Putting fields in order leaves what is held under every name. -/
@[simp]
theorem stored?_reorder (row : Row) (names : List String) (name : String) :
    (row.reorder names).stored? name = row.stored? name := by
  obtain ⟨fields⟩ := row
  rw [reorder]
  induction names generalizing fields with
  | nil => rfl
  | cons first rest ih =>
    rw [reorderFields]
    cases taken : extract? first fields with
    | none => exact ih fields
    | some found =>
      obtain ⟨field, others⟩ := found
      have placed : stored? ⟨reorderFields rest others⟩ name = stored? ⟨others⟩ name := ih others
      change stored? ⟨field :: reorderFields rest others⟩ name = _
      rw [stored?_cons, placed, ← stored?_cons]
      exact stored?_of_extract? taken name

/-- Reordering a row changes nothing that is found in it. -/
@[simp]
theorem get?_reorder (row : Row) (names : List String) (name : String) :
    (row.reorder names).get? name = row.get? name := by
  simp [get?]

/-- Reordering a row changes none of its keys. -/
@[simp]
theorem key?_reorder (row : Row) (names : List String) (name : String) :
    (row.reorder names).key? name = row.key? name := by
  simp [key?]

end ArgoQuery.Row
