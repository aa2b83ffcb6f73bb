import ArgoQuery.Rest.PageServer
import Mathlib.Data.List.Chain
import Mathlib.Tactic.Cases

/-!
# The course of a fetch

A fetch page by page is judged by the course that it would take if it could ask for any number of
pages. Where there is a course, `follow` takes it as soon as its budget covers the pages
(`Course.follow_eq`). A course asks for rising offsets, and only its last page can be empty or fail.

With a server that sends something whenever something is left, there is a course from every offset,
with one page more than there are rows left at most (`exists_course`). It ends at the first page
that fails; if none does, it has brought all the rows and asked for the page behind them
(`Course.result_of_unrefused`). That some pages are short makes no difference.
-/

namespace ArgoQuery.Rest

/-- The course of a fetch from an offset on. -/
inductive Course (ask : PageRequest → Except StoreError (List Row)) (limit : Nat) :
    Nat → Paging → Prop
  | failed {offset : Nat} {cause : StoreError} (failure : ask ⟨limit, offset⟩ = .error cause) :
      Course ask limit offset ⟨[⟨limit, offset⟩], .error cause⟩
  | ended {offset : Nat} (empty : ask ⟨limit, offset⟩ = .ok []) :
      Course ask limit offset ⟨[⟨limit, offset⟩], .ok []⟩
  | continued {offset : Nat} {rows : List Row} {later : Paging}
      (page : ask ⟨limit, offset⟩ = .ok rows) (nonempty : rows ≠ [])
      (rest : Course ask limit (offset + rows.length) later) :
      Course ask limit offset ⟨⟨limit, offset⟩ :: later.asked, later.result.map (rows ++ ·)⟩

namespace Course

variable {ask : PageRequest → Except StoreError (List Row)} {limit offset : Nat} {fetched : Paging}

/-- A course begins with the page at its offset. -/
theorem asked_head? (course : Course ask limit offset fetched) :
    fetched.asked.head? = some ⟨limit, offset⟩ := by
  cases course <;> rfl

/-- A fetch takes its course if its budget covers the pages. -/
theorem follow_eq (course : Course ask limit offset fetched) {budget : Nat}
    (enough : fetched.asked.length ≤ budget) : follow ask limit budget offset = fetched := by
  induction course generalizing budget with
  | failed failure =>
    obtain ⟨budget, rfl⟩ : ∃ rest, budget = rest + 1 := Nat.exists_eq_add_of_le' enough
    rw [follow, failure]
  | ended empty =>
    obtain ⟨budget, rfl⟩ : ∃ rest, budget = rest + 1 := Nat.exists_eq_add_of_le' enough
    rw [follow, empty]
  | @continued offset rows later page nonempty rest ih =>
    obtain ⟨budget, rfl⟩ : ∃ rest, budget = rest + 1 :=
      Nat.exists_eq_add_of_le' ((Nat.le_add_left ..).trans enough)
    obtain ⟨first, others, rfl⟩ := List.exists_cons_of_ne_nil nonempty
    rw [follow, page]
    dsimp only
    rw [ih (Nat.le_of_succ_le_succ enough)]

/-- Every page is of the same size. -/
theorem limit_eq (course : Course ask limit offset fetched) :
    ∀ page ∈ fetched.asked, page.limit = limit := by
  induction course with
  | failed failure | ended empty =>
    intro page member
    rw [List.mem_singleton.mp member]
  | continued page nonempty rest ih =>
    intro page member
    rcases List.mem_cons.mp member with rfl | member
    · rfl
    · exact ih page member

/-- The next page starts after the rows of the page before. -/
theorem asked_chain (course : Course ask limit offset fetched) :
    fetched.asked.IsChain fun page next => ∃ rows, ask page = .ok rows ∧ rows ≠ [] ∧
      next.offset = page.offset + rows.length := by
  induction course with
  | failed failure | ended empty => exact List.isChain_singleton _
  | continued page nonempty rest ih =>
    refine List.isChain_cons.mpr ⟨fun next first => ?_, ih⟩
    rw [rest.asked_head?] at first
    cases Option.mem_some.mp first
    exact ⟨_, page, nonempty, rfl⟩

/-- Offsets rise. -/
theorem offsets_lt (course : Course ask limit offset fetched) :
    (fetched.asked.map (·.offset)).Pairwise (· < ·) := by
  refine List.IsChain.pairwise ((List.isChain_map _).mpr (course.asked_chain.imp ?_))
  rintro page next ⟨rows, -, nonempty, start⟩
  rw [start]
  exact Nat.lt_add_of_pos_right (List.length_pos_iff.mpr nonempty)

/-- A page that fails ends the fetch. -/
theorem of_error (course : Course ask limit offset fetched) {page : PageRequest}
    (member : page ∈ fetched.asked) {cause : StoreError} (failure : ask page = .error cause) :
    fetched.result = .error cause ∧ fetched.asked.getLast? = some page := by
  induction course with
  | failed failure' =>
    rw [List.mem_singleton.mp member, failure'] at failure
    cases failure
    exact ⟨rfl, congrArg some (List.mem_singleton.mp member).symm⟩
  | ended empty =>
    rw [List.mem_singleton.mp member, empty] at failure
    cases failure
  | @continued offset rows later page' nonempty rest ih =>
    rcases List.mem_cons.mp member with rfl | member
    · rw [page'] at failure
      cases failure
    · obtain ⟨result, last⟩ := ih member
      rw [List.getLast?_cons, last, result]
      exact ⟨rfl, rfl⟩

end Course

namespace PageServer

/-- The part of a list that answers a request, if the list has an item for each row. -/
def cut (server : PageServer) (request : PageRequest) {α : Type} (items : List α) : List α :=
  (items.drop request.offset).take (min request.limit (server.cap request))

/-- Whether pages of a size are answered by the server, or else fail. -/
def Answers (server : PageServer) (ask : PageRequest → Except StoreError (List Row))
    (limit : Nat) : Prop :=
  ∀ offset ≤ server.rows.length,
    ask ⟨limit, offset⟩ = server.ask ⟨limit, offset⟩ ∨ ∃ cause, ask ⟨limit, offset⟩ = .error cause

variable {server : PageServer} {limit offset : Nat}

/-- A generous server sends something as long as there are rows left. -/
theorem page_ne_nil (generous : server.IsGenerous) (positive : 0 < limit)
    (before : offset < server.rows.length) : server.page ⟨limit, offset⟩ ≠ [] := by
  have size : 0 < min limit (server.cap ⟨limit, offset⟩) := Nat.lt_min.mpr ⟨positive, generous _⟩
  rw [page, ← List.length_pos_iff, List.length_take, List.length_drop]
  exact Nat.lt_min.mpr ⟨size, Nat.sub_pos_of_lt before⟩

/-- No page goes beyond the last row. -/
theorem add_length_page_le (inside : offset ≤ server.rows.length) :
    offset + (server.page ⟨limit, offset⟩).length ≤ server.rows.length := by
  rw [page, List.length_take, List.length_drop]
  calc offset + min _ (server.rows.length - offset)
      ≤ offset + (server.rows.length - offset) := Nat.add_le_add_left (Nat.min_le_right ..) _
    _ = server.rows.length := Nat.add_sub_of_le inside

/-- A page and what is left after it are what was left before it. -/
theorem page_append_drop :
    server.page ⟨limit, offset⟩ ++
        server.rows.drop (offset + (server.page ⟨limit, offset⟩).length) =
      server.rows.drop offset := by
  rw [← List.drop_drop]
  exact (List.prefix_iff_eq_append.mp (List.take_prefix ..))

/-- A page that does not fail is the one of the server. -/
theorem Answers.eq_page {ask : PageRequest → Except StoreError (List Row)}
    (answers : server.Answers ask limit) (inside : offset ≤ server.rows.length) {rows : List Row}
    (page : ask ⟨limit, offset⟩ = .ok rows) : rows = server.page ⟨limit, offset⟩ := by
  rcases answers offset inside with served | ⟨cause, failure⟩
  · exact Except.ok.inj (page.symm.trans served)
  · rw [page] at failure
    cases failure

end PageServer

namespace Course

variable {ask : PageRequest → Except StoreError (List Row)} {limit offset : Nat} {fetched : Paging}
  {server : PageServer}

/-- No offset lies behind the end of the rows. -/
theorem offset_le (course : Course ask limit offset fetched) (answers : server.Answers ask limit)
    (inside : offset ≤ server.rows.length) :
    ∀ page ∈ fetched.asked, page.offset ≤ server.rows.length := by
  induction course with
  | failed failure | ended empty =>
    intro page member
    rw [List.mem_singleton.mp member]
    exact inside
  | continued page nonempty rest ih =>
    cases answers.eq_page inside page
    intro page member
    rcases List.mem_cons.mp member with rfl | member
    · exact inside
    · exact ih (PageServer.add_length_page_le inside) page member

/-- The next page starts after the rows of the server's page before. -/
theorem asked_running (course : Course ask limit offset fetched)
    (answers : server.Answers ask limit) (inside : offset ≤ server.rows.length) :
    fetched.asked.IsChain fun page next =>
      next.offset = page.offset + (server.page page).length := by
  refine course.asked_chain.imp_of_mem_imp fun page next member _ => ?_
  rintro ⟨rows, received, -, start⟩
  have size := course.limit_eq page member
  have within := course.offset_le answers inside page member
  obtain ⟨limit, offset⟩ := page
  cases size
  rw [start, answers.eq_page within received]

/-- If no page fails, all rows are brought that are left, and the last page asked for is the one
behind them. -/
theorem result_of_unrefused (course : Course ask limit offset fetched) (positive : 0 < limit)
    (generous : server.IsGenerous) (answers : server.Answers ask limit)
    (inside : offset ≤ server.rows.length)
    (unrefused : ∀ page ∈ fetched.asked, ∀ cause, ask page ≠ .error cause) :
    fetched.result = .ok (server.rows.drop offset) ∧
      fetched.asked.getLast? = some ⟨limit, server.rows.length⟩ := by
  induction course with
  | failed failure => exact absurd failure (unrefused _ List.mem_cons_self _)
  | @ended offset empty =>
    have nothing := answers.eq_page inside empty
    have behind : offset = server.rows.length := by
      refine Nat.le_antisymm inside (Nat.le_of_not_lt fun before => ?_)
      exact PageServer.page_ne_nil generous positive before nothing.symm
    rw [behind, List.drop_length]
    exact ⟨rfl, rfl⟩
  | continued page nonempty rest ih =>
    cases answers.eq_page inside page
    obtain ⟨result, last⟩ := ih (PageServer.add_length_page_le inside)
      fun page member => unrefused page (List.mem_cons_of_mem _ member)
    rw [result, List.getLast?_cons, last]
    exact ⟨congrArg Except.ok PageServer.page_append_drop, rfl⟩

end Course

/-- From every offset there is a course, with one page more than there are rows left at most.

Every page but the last brings a row at least, so the rows that are left bound the pages. -/
theorem exists_course {ask : PageRequest → Except StoreError (List Row)} {limit : Nat}
    {server : PageServer} (answers : server.Answers ask limit) {offset : Nat}
    (inside : offset ≤ server.rows.length) :
    ∃ fetched, Course ask limit offset fetched ∧
      fetched.asked.length ≤ server.rows.length - offset + 1 := by
  generalize left : server.rows.length - offset = count
  induction count using Nat.strongRecOn generalizing offset with
  | ind count ih =>
    rcases answers offset inside with served | ⟨cause, failure⟩
    · by_cases empty : server.page ⟨limit, offset⟩ = []
      · rw [PageServer.ask, empty] at served
        exact ⟨_, .ended served, Nat.le_add_left ..⟩
      · have received := List.length_pos_iff.mpr empty
        have within : offset + (server.page ⟨limit, offset⟩).length ≤ server.rows.length :=
          PageServer.add_length_page_le inside
        obtain ⟨later, rest, bound⟩ := ih _ (by omega) within rfl
        refine ⟨_, .continued served empty rest, ?_⟩
        rw [List.length_cons]
        omega
    · exact ⟨_, .failed failure, Nat.le_add_left ..⟩

/-- A fetch whose pages are all answered by a server brings its rows. -/
theorem follow_result {ask : PageRequest → Except StoreError (List Row)} {limit : Nat}
    {server : PageServer} (positive : 0 < limit) (generous : server.IsGenerous)
    (answered : ∀ offset ≤ server.rows.length, ask ⟨limit, offset⟩ = server.ask ⟨limit, offset⟩)
    {budget : Nat} (enough : server.rows.length < budget) :
    (follow ask limit budget 0).result = .ok server.rows := by
  have answers : server.Answers ask limit := fun offset inside => .inl (answered offset inside)
  have start := Nat.zero_le server.rows.length
  obtain ⟨fetched, course, pages⟩ := exists_course answers start
  rw [course.follow_eq (pages.trans enough)]
  refine (course.result_of_unrefused positive generous answers start ?_).1
  intro page member cause failure
  have inside := course.offset_le answers start page member
  have size := course.limit_eq page member
  obtain ⟨limit, offset⟩ := page
  cases size
  rw [answered offset inside] at failure
  cases failure

end ArgoQuery.Rest
