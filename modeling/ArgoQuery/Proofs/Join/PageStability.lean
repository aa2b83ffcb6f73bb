import ArgoQuery.Proofs.Join.FloatPairs
import ArgoQuery.Proofs.Rest.RowPayload

/-!
# Pages hold together where rows that tie are sent alike

A server may sort the rows of a select anew for every page, and rows that tie in its order may come
in another sequence each time. Main statement: `toStore_of_sorted_pages`. A fetch brings every row
once if rows that tie in the order of the select are sent alike, whatever the pages and however the
server compares the values of a column.

That they are sent alike does not follow from the order of a join: two positions of one cycle tie,
and so do two measurements of one cycle without a pressure. `toStore_doubles_position` has a fetch
that brings one of two positions twice and the other one not at all.
-/

namespace ArgoQuery

namespace Row

/-- Compares two rows by the first column in which they differ, the values of a column being
compared as given. -/
def compareWith (compare : String → Option Value → Option Value → Ordering) :
    List String → Row → Row → Ordering
  | [], _, _ => .eq
  | column :: columns, left, right =>
    (compare column (left.get? column) (right.get? column)).then
      (compareWith compare columns left right)

/-- Values in the order of a store in memory: as numbers where both are, as keys otherwise. -/
def compareValues (left right : Option Value) : Ordering :=
  match left.bind Value.number?, right.bind Value.number? with
  | some leftNumber, some rightNumber => leftNumber.compareTotal rightNumber
  | _, _ => compareKeys (left.bind Value.key?) (right.bind Value.key?)

/-- A store in memory is one that compares values. -/
theorem compareBy_eq_compareWith (columns : List String) (left right : Row) :
    compareBy columns left right = compareWith (fun _ => compareValues) columns left right := by
  induction columns with
  | nil => rfl
  | cons column columns ih =>
    rw [compareBy, compareWith, ih]
    rfl

end Row

/-- Two sorted arrangements of the same items look the same if items that tie look the same.

The first item of one arrangement ties in the other with everything that stands before it there, so
it can be moved to the front without a change to be seen. -/
theorem map_eq_of_perm_of_pairwise {Item Look : Type} {atMost : Item → Item → Prop}
    {look : Item → Look} {first second : List Item} (perm : first.Perm second)
    (sorted : first.Pairwise atMost) (sorted' : second.Pairwise atMost)
    (alike : ∀ item ∈ first, ∀ other ∈ first, atMost item other → atMost other item →
      look item = look other) : first.map look = second.map look := by
  induction first generalizing second with
  | nil => rw [perm.nil_eq]
  | cons item rest ih =>
    obtain ⟨before, after, rfl⟩ := List.append_of_mem (perm.subset List.mem_cons_self)
    obtain ⟨leads, restSorted⟩ := List.pairwise_cons.mp sorted
    have others : rest.Perm (before ++ after) :=
      (List.perm_cons item).mp (perm.trans List.perm_middle)
    have remaining : (before ++ after).Pairwise atMost :=
      sorted'.sublist ((List.sublist_cons_self item after).append_left before)
    have ties : ∀ other ∈ before, look other = look item := by
      intro other member
      have later : other ∈ rest := others.symm.subset (List.mem_append_left _ member)
      have ahead : atMost other item :=
        (List.pairwise_append.mp sorted').2.2 other member item List.mem_cons_self
      exact alike other (List.mem_cons_of_mem _ later) item List.mem_cons_self ahead
        (leads other later)
    have front : before.map look = List.replicate before.length (look item) :=
      List.map_eq_replicate_iff.mpr ties
    have shown := ih others restSorted remaining fun one member other member' =>
      alike one (List.mem_cons_of_mem _ member) other (List.mem_cons_of_mem _ member')
    calc (item :: rest).map look
        = look item :: (before.map look ++ after.map look) := by
          rw [List.map_cons, shown, List.map_append]
      _ = before.map look ++ look item :: after.map look := by
          rw [front, ← List.cons_append, ← List.replicate_succ, List.replicate_succ',
            List.append_assoc, List.singleton_append]
      _ = (before ++ item :: after).map look := by
          rw [List.map_append, List.map_cons]

namespace Join

/-- A server that arranges its rows for each request anew. -/
structure SortingServer where
  rows : List Row
  arrange : Rest.PageRequest → List Row
  cap : Rest.PageRequest → Nat

namespace SortingServer

/-- Whether the rows are always arranged in the order of a select. How rows that tie in the order
are arranged is left open. -/
structure Sorts (server : SortingServer)
    (compare : String → Option Value → Option Value → Ordering) (select : Select) : Prop where
  perm : ∀ request, (server.arrange request).Perm server.rows
  sorted : ∀ request, (server.arrange request).Pairwise fun row later =>
    Row.compareWith compare select.order row later ≠ .gt

/-- The server as it is for one request: its rows arranged, and cut down to what is asked for. -/
def facing (server : SortingServer) (select : Select) (request : Rest.PageRequest) :
    Rest.PageServer :=
  ⟨(server.arrange request).map select.projectRow, server.cap⟩

/-- Whether the response to every page of a select sends the page that there is for the request. -/
structure Serves (server : SortingServer) (rest : RestStore) (transport : Http.Transport)
    (select : Select) : Prop where
  generous : ∀ request, 0 < server.cap request
  pages : ∀ offset ≤ server.rows.length, ∃ response,
    rest.respond transport select ⟨rest.pageSize, offset⟩ = .ok response ∧
      response.Sends ((server.facing select ⟨rest.pageSize, offset⟩).page ⟨rest.pageSize, offset⟩)

/-- Whether rows that tie in the order of a select are sent alike. -/
def TiesAlike (server : SortingServer)
    (compare : String → Option Value → Option Value → Ordering) (select : Select) : Prop :=
  ∀ row ∈ server.rows, ∀ other ∈ server.rows,
    Row.compareWith compare select.order row other ≠ .gt →
      Row.compareWith compare select.order other row ≠ .gt →
        select.projectRow row = select.projectRow other

variable {server : SortingServer} {compare : String → Option Value → Option Value → Ordering}
  {select : Select}

/-- If rows that tie are sent alike, all requests face the same rows. -/
theorem facing_eq (sorts : server.Sorts compare select) (alike : server.TiesAlike compare select)
    (request first : Rest.PageRequest) :
    server.facing select request = server.facing select first := by
  have perm := (sorts.perm request).trans (sorts.perm first).symm
  have look := map_eq_of_perm_of_pairwise perm (sorts.sorted request) (sorts.sorted first)
    fun row member other member' => alike row ((sorts.perm request).subset member) other
      ((sorts.perm request).subset member')
  rw [facing, facing, look]

end SortingServer

/-- Over the pages of a server that sorts the rows of a select for each page anew, a select of a
join brings every row once, if rows that tie in its order are sent alike.

Then all arrangements that the server can make look the same, so the pages are those of one list of
rows. -/
theorem toStore_of_sorted_pages (rest : RestStore) (transport : Http.Transport) (budget : Nat)
    (names : CollectionNames) (descriptor : Descriptor) (side : Side) (float : Option String)
    (compare : String → Option Value → Option Value → Ordering) (server : SortingServer)
    (sorts : server.Sorts compare (scopedSelect names descriptor side float))
    (serves : server.Serves rest transport (scopedSelect names descriptor side float))
    (alike : server.TiesAlike compare (scopedSelect names descriptor side float))
    (reads : ∀ row ∈ server.rows, row.ReadsBack) (positive : 0 < rest.pageSize)
    (enough : server.rows.length < budget) :
    ∃ rows, rest.toStore transport budget (scopedSelect names descriptor side float) = .ok rows ∧
      rows.Perm (server.rows.map fun row =>
        ((scopedSelect names descriptor side float).projectRow row).byName) := by
  let select := scopedSelect names descriptor side float
  let first : Rest.PageRequest := ⟨rest.pageSize, 0⟩
  have size : (server.facing select first).rows.length = server.rows.length := by
    rw [SortingServer.facing, List.length_map, (sorts.perm first).length_eq]
  have sent : rest.IsSent transport select (server.facing select first) := by
    constructor
    case generous => exact serves.generous
    case pages =>
      intro offset inside
      obtain ⟨response, responded, sends⟩ := serves.pages offset (size ▸ inside)
      rw [SortingServer.facing_eq sorts alike _ first] at sends
      exact ⟨response, responded, sends⟩
  have legible : ∀ row ∈ (server.facing select first).rows, row.IsLegible := by
    intro row member
    obtain ⟨source, held, rfl⟩ := List.mem_map.mp member
    exact (reads source ((sorts.perm first).subset held)).project _
  refine ⟨_, RestStore.toStore_of_isSent sent rfl positive legible (size ▸ enough), ?_⟩
  rw [SortingServer.facing, List.map_map]
  exact (sorts.perm first).map _

/-- Two measurements without a pressure tie and change places from page to page. What is fetched of
them is the same, so it arrives twice. -/
theorem toStore_of_alike_measurements :
    let measurement (pressure : Value) (source : String) : Row := .ofList
      [("float_id", .text "1"), ("cycle_number", .int 1), ("pres_adjusted", pressure),
        ("psal_adjusted", .int 35), ("source", .text source)]
    let descriptor := Descriptor.ofTopic .salinity none none
    let select := scopedSelect {} descriptor .measurements (some "1")
    let compare : String → Option Value → Option Value → Ordering := fun _ => Row.compareValues
    let one := measurement .null "a"
    let other := measurement .null "b"
    let deep := measurement (.int 5) "c"
    let server : SortingServer :=
      { rows := [one, other, deep]
        arrange := fun request =>
          if request.offset = 1 then [other, one, deep] else [one, other, deep]
        cap := fun _ => 1 }
    let rest : RestStore :=
      { base := "http://localhost", headers := [], pageSize := 1, healthCollection := "floats" }
    let text (offset : Nat) : String :=
      (Json.array (((server.facing select ⟨1, offset⟩).page ⟨1, offset⟩).map Row.toJson)).compact
    let transport : Http.Transport := fun request =>
      .ok ⟨200, text (((request.url.query.bind List.getLast?).getD '0').toNat - '0'.toNat)⟩
    server.Sorts compare select ∧ server.Serves rest transport select ∧
      server.TiesAlike compare select ∧
      ∃ rows, rest.toStore transport 4 select = .ok rows ∧
        rows.Perm (server.rows.map fun row => (select.projectRow row).byName) := by
  intro measurement descriptor select compare one other deep server rest text transport
  have sorts : server.Sorts compare select := by
    constructor
    case perm =>
      intro request
      simp only [server]
      split_ifs <;> decide +kernel
    case sorted =>
      intro request
      simp only [server]
      split_ifs <;> decide +kernel
  have responses : ∀ offset ≤ 3,
      rest.respond transport select ⟨1, offset⟩ = .ok ⟨200, text offset⟩ := by
    decide +kernel
  have serves : server.Serves rest transport select :=
    ⟨fun _ => Nat.one_pos, fun offset inside => ⟨_, responses offset inside, rfl, rfl⟩⟩
  have alike : server.TiesAlike compare select := by
    unfold SortingServer.TiesAlike
    decide +kernel
  have reads : ∀ row ∈ server.rows, row.ReadsBack := by
    decide +kernel
  exact ⟨sorts, serves, alike, toStore_of_sorted_pages rest transport 4 {} descriptor .measurements
    (some "1") compare server sorts serves alike reads (by decide) (by decide)⟩

/-- Two positions of one cycle tie and change places behind the first page. One of them arrives
twice and the other one not at all: the pages asked for are those of a server that holds the first
position twice. -/
theorem toStore_doubles_position :
    let position (latitude : Int64) : Row := .ofList [("float_id", .text "1"),
      ("cycle_number", .int 1), ("latitude", .int latitude), ("longitude", .int 70)]
    let select := scopedSelect {} (Descriptor.ofTopic .salinity none none) .locations none
    let server : SortingServer :=
      { rows := [position 10, position 11]
        arrange := fun request =>
          if request.offset = 1 then [position 11, position 10] else [position 10, position 11]
        cap := fun _ => 1 }
    let rest : RestStore :=
      { base := "http://localhost", headers := [], pageSize := 1, healthCollection := "floats" }
    let text (offset : Nat) : String :=
      (Json.array (((server.facing select ⟨1, offset⟩).page ⟨1, offset⟩).map Row.toJson)).compact
    let transport : Http.Transport := fun request =>
      .ok ⟨200, text (((request.url.query.bind List.getLast?).getD '0').toNat - '0'.toNat)⟩
    (∀ row ∈ server.rows, select.admits row = true) ∧
      server.Sorts (fun _ => Row.compareValues) select ∧ server.Serves rest transport select ∧
      rest.toStore transport 3 select = .ok [(position 10).byName, (position 10).byName] ∧
      ¬ [(position 10).byName, (position 10).byName].Perm
        (server.rows.map fun row => (select.projectRow row).byName) := by
  intro position select server rest text transport
  have sorts : server.Sorts (fun _ => Row.compareValues) select := by
    constructor
    case perm =>
      intro request
      simp only [server]
      split_ifs <;> decide +kernel
    case sorted =>
      intro request
      simp only [server]
      split_ifs <;> decide +kernel
  have responses : ∀ offset ≤ 2,
      rest.respond transport select ⟨1, offset⟩ = .ok ⟨200, text offset⟩ := by
    decide +kernel
  have serves : server.Serves rest transport select :=
    ⟨fun _ => Nat.one_pos, fun offset inside => ⟨_, responses offset inside, rfl, rfl⟩⟩
  let doubled : Rest.PageServer := ⟨List.replicate 2 (position 10), fun _ => 1⟩
  have pages : ∀ offset ≤ 2,
      (server.facing select ⟨1, offset⟩).page ⟨1, offset⟩ = doubled.page ⟨1, offset⟩ := by
    decide +kernel
  have sent : rest.IsSent transport select doubled := by
    constructor
    case generous => exact fun _ => Nat.one_pos
    case pages =>
      intro offset inside
      exact ⟨_, responses offset inside, rfl, pages offset inside ▸ rfl⟩
  have legible : (position 10).IsLegible := ⟨by decide +kernel, by decide +kernel⟩
  have brought : rest.toStore transport 3 select =
      .ok [(position 10).byName, (position 10).byName] :=
    RestStore.toStore_of_isSent sent rfl Nat.one_pos
      (fun row member => List.eq_of_mem_replicate member ▸ legible) (by decide)
  exact ⟨by decide +kernel, sorts, serves, brought, by decide +kernel⟩

end Join

end ArgoQuery
