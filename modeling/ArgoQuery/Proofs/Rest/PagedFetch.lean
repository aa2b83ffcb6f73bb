import ArgoQuery.Proofs.Rest.PageCourse
import ArgoQuery.Proofs.Table.Payloads
import ArgoQuery.Rest

/-!
# Fetching the rows of a server

A server keeps rows as JSON and answers the request for a page with those from the offset on, as
many as the page may hold and as its own cap allows; the cap may differ from request to request. A
select without a limit brings all the rows in their order, whatever the caps are, and it stops at
the first page that is refused (`fetch_exact`). A select with a limit is a single request.

Of the response to a page nothing is assumed but how its payload is read. A budget beyond the number
of rows is never used up, so nothing depends on it.
-/

namespace ArgoQuery

namespace Rest.PageServer

/-- The part of the items that answers a request is read as the page. -/
theorem listOfJson_cut {server : PageServer} {items : List Json}
    (valid : Row.listOfJson (.array items) = .ok server.rows) (request : PageRequest) :
    Row.listOfJson (.array (server.cut request items)) = .ok (server.page request) := by
  rw [Row.listOfJson_eq_ok_iff] at valid ⊢
  exact List.forall₂_take _ (List.forall₂_drop _ valid)

end Rest.PageServer

namespace Http.Response

/-- Whether a response brings the items: it is a success, and its payload is read like them. -/
def Brings (response : Response) (items : List Json) : Prop :=
  response.isSuccess = true ∧
    (Json.ofText? response.body).map Row.listOfJson = some (Row.listOfJson (.array items))

instance (response : Response) (items : List Json) : Decidable (response.Brings items) :=
  inferInstanceAs (Decidable (_ ∧ _))

/-- Why a response is refused: its status, a payload that is no JSON, or one that holds no rows. -/
inductive Refused (response : Response) : StoreError → Prop
  | status (failure : response.isSuccess = false) :
      Refused response (.status response.status response.body)
  | text (success : response.isSuccess = true) (unreadable : Json.ofText? response.body = none) :
      Refused response (.transport .undecodable)
  | payload {payload : Json} {fault : PayloadFault} (success : response.isSuccess = true)
      (text : Json.ofText? response.body = some payload)
      (invalid : Row.listOfJson payload = .error fault) : Refused response (.payload fault)

end Http.Response

namespace RestStore

/-- A response that brings the items of valid rows is read as the rows. -/
theorem read_of_brings {response : Http.Response} {items : List Json} {rows : List Row}
    (brings : response.Brings items) (valid : Row.listOfJson (.array items) = .ok rows) :
    read response = .ok rows := by
  obtain ⟨success, text⟩ := brings
  obtain ⟨payload, written, same⟩ := Option.map_eq_some_iff.mp text
  rw [read, if_pos success, written]
  dsimp only
  rw [same, valid]

/-- A refused response is read as the cause of the refusal. -/
theorem read_of_refused {response : Http.Response} {cause : StoreError}
    (refused : response.Refused cause) : read response = .error cause := by
  cases refused with
  | status failure => rw [read, failure, if_neg Bool.false_ne_true]
  | text success unreadable => rw [read, if_pos success, unreadable]
  | payload success text invalid =>
    rw [read, if_pos success, text]
    dsimp only
    rw [invalid]

variable {store : RestStore} {transport : Http.Transport} {select : Select}

/-- What the transport answers the request for a page with. -/
def respond (store : RestStore) (transport : Http.Transport) (select : Select)
    (page : Rest.PageRequest) : Except Http.TransportFault Http.Response := do
  transport (← store.request select page)

/-- What a page comes to is what its response is read as. -/
theorem fetchPage_of_respond {page : Rest.PageRequest} {response : Http.Response}
    (answered : store.respond transport select page = .ok response) :
    store.fetchPage transport select page = read response := by
  rw [respond] at answered
  rw [fetchPage]
  cases sent : store.request select page with
  | error fault =>
    rw [sent] at answered
    cases answered
  | ok request =>
    rw [sent] at answered
    dsimp only
    rw [show transport request = .ok response from answered]

/-- Whether the response to a page is refused, and why. -/
def Refuses (store : RestStore) (transport : Http.Transport) (select : Select)
    (page : Rest.PageRequest) (cause : StoreError) : Prop :=
  ∃ response, store.respond transport select page = .ok response ∧ response.Refused cause

/-- Whether there is a server behind the transport that keeps the items as its rows: the response to
each page either brings the server's part of the items or is refused. -/
structure IsServed (store : RestStore) (transport : Http.Transport) (select : Select)
    (server : Rest.PageServer) (items : List Json) : Prop where
  generous : server.IsGenerous
  valid : Row.listOfJson (.array items) = .ok server.rows
  answers : ∀ offset ≤ server.rows.length, ∃ response,
    store.respond transport select ⟨store.pageSize, offset⟩ = .ok response ∧
      (response.Brings (server.cut ⟨store.pageSize, offset⟩ items) ∨
        ∃ cause, response.Refused cause)

/-- A page that is refused comes to the cause of the refusal. -/
theorem fetchPage_of_refuses {page : Rest.PageRequest} {cause : StoreError}
    (refuses : store.Refuses transport select page cause) :
    store.fetchPage transport select page = .error cause := by
  obtain ⟨response, answered, refused⟩ := refuses
  rw [fetchPage_of_respond answered, read_of_refused refused]

section Served

variable {server : Rest.PageServer} {items : List Json}
  (served : store.IsServed transport select server items)

include served

/-- A page is the server's or is refused. -/
theorem IsServed.fetchPage_eq_or {offset : Nat} (inside : offset ≤ server.rows.length) :
    store.fetchPage transport select ⟨store.pageSize, offset⟩ =
        server.ask ⟨store.pageSize, offset⟩ ∨
      ∃ cause, store.Refuses transport select ⟨store.pageSize, offset⟩ cause := by
  obtain ⟨response, answered, brings | ⟨cause, refused⟩⟩ := served.answers offset inside
  · left
    rw [fetchPage_of_respond answered]
    exact read_of_brings brings (Rest.PageServer.listOfJson_cut served.valid _)
  · exact .inr ⟨cause, response, answered, refused⟩

/-- A server that serves a select answers for each of its pages with the rows there. -/
theorem IsServed.answers_fetchPage :
    server.Answers (store.fetchPage transport select) store.pageSize :=
  fun _ inside => (served.fetchPage_eq_or inside).imp_right fun ⟨cause, refuses⟩ =>
    ⟨cause, fetchPage_of_refuses refuses⟩

/-- A page that fails is refused. -/
theorem IsServed.refuses_of_error {page : Rest.PageRequest} {cause : StoreError}
    (size : page.limit = store.pageSize) (inside : page.offset ≤ server.rows.length)
    (failure : store.fetchPage transport select page = .error cause) :
    ∃ cause, store.Refuses transport select page cause := by
  obtain ⟨limit, offset⟩ := page
  cases size
  rcases served.fetchPage_eq_or inside with asked | refuses
  · rw [asked] at failure
    cases failure
  · exact refuses

end Served

/-- Without a limit of the select a fetch asks for pages of the full size, the first one at the
start and each other one after the rows received so far. If none is refused, it brings the rows of
the server in their order, and the last page asked for is the one behind them. A page that is
refused is the last one asked for, and nothing but the reason comes of the fetch. With a limit there
is one request.

The pages asked for make up a course, which ends behind the last row or at a page that is refused. A
course is found by induction on the rows that are left, and everything else is read off it. -/
theorem fetch_exact (store : RestStore) (transport : Http.Transport) (select : Select) :
    (select.limit = none → 0 < store.pageSize →
      ∀ (server : Rest.PageServer) (items : List Json) (budget : Nat),
        store.IsServed transport select server items → server.rows.length < budget →
        let fetched := store.fetch transport budget select
        fetched.asked.length ≤ server.rows.length + 1 ∧
          fetched.asked.head? = some ⟨store.pageSize, 0⟩ ∧
          (∀ page ∈ fetched.asked, page.limit = store.pageSize) ∧
          (fetched.asked.map (·.offset)).Pairwise (· < ·) ∧
          fetched.asked.IsChain (fun page next =>
            next.offset = page.offset + (server.page page).length) ∧
          ((∀ page ∈ fetched.asked, ∀ cause, ¬ store.Refuses transport select page cause) →
            fetched.result = .ok server.rows ∧
              fetched.asked.getLast? = some ⟨store.pageSize, server.rows.length⟩) ∧
          (∀ page ∈ fetched.asked, ∀ cause, store.Refuses transport select page cause →
            fetched.result = .error cause ∧ fetched.asked.getLast? = some page)) ∧
    ∀ (limit budget : Nat), select.limit = some limit →
      (store.fetch transport budget select).asked = [⟨limit, 0⟩] ∧
        (store.fetch transport budget select).result =
          store.fetchPage transport select ⟨limit, 0⟩ := by
  refine ⟨fun unlimited positive server items budget served enough => ?_,
    fun limit budget limited => ?_⟩
  · have answers := served.answers_fetchPage
    have start := Nat.zero_le server.rows.length
    obtain ⟨fetched, course, pages⟩ := Rest.exists_course answers start
    have taken : store.fetch transport budget select = fetched := by
      rw [fetch, unlimited]
      exact course.follow_eq (pages.trans enough)
    dsimp only
    rw [taken]
    refine ⟨pages, course.asked_head?, course.limit_eq, course.offsets_lt,
      course.asked_running answers start, fun unrefused => ?_,
      fun page member cause refuses => course.of_error member (fetchPage_of_refuses refuses)⟩
    refine course.result_of_unrefused positive served.generous answers start
      fun page member cause failure => ?_
    have inside := course.offset_le answers start page member
    obtain ⟨cause', refuses⟩ :=
      served.refuses_of_error (course.limit_eq page member) inside failure
    exact unrefused page member cause' refuses
  · rw [fetch, limited]
    exact ⟨rfl, rfl⟩

/-- Three rows come in pages of one and of two. If the second page is refused, nothing is left of
the first. A limit of five is a single request, though pages hold two. -/
theorem fetch_three_rows :
    let row (cycle : Int64) : Row := ⟨[("cycle_number", .int cycle)]⟩
    let item (cycle : Int) : Json := .object [("cycle_number", .int cycle)]
    let server : Rest.PageServer :=
      { rows := [row 1, row 2, row 3], cap := fun request => if request.offset = 0 then 1 else 5 }
    let store : RestStore :=
      { base := "http://localhost", headers := [], pageSize := 2, healthCollection := "floats" }
    let select : Select := { collection := "floats" }
    let response (second : Nat) : Nat → Http.Response
      | 0 => ⟨200, "[\x7b\"cycle_number\":1\x7d]"⟩
      | 1 => ⟨second, "[\x7b\"cycle_number\":2\x7d,\x7b\"cycle_number\":3\x7d]"⟩
      | 2 => ⟨200, "[\x7b\"cycle_number\":3\x7d]"⟩
      | _ => ⟨200, "[]"⟩
    let transport (second : Nat) : Http.Transport := fun request =>
      let asks (offset : Nat) : Bool :=
        request.url.query = some ("select=*&limit=2&offset=" ++ decimalText offset).toList
      .ok (response second (((List.range 3).find? asks).getD 3))
    (∀ second ∈ [200, 503],
      store.IsServed (transport second) select server [item 1, item 2, item 3]) ∧
      (store.fetch (transport 200) 4 select).result = .ok server.rows ∧
      (store.fetch (transport 200) 4 select).asked.getLast? = some ⟨2, 3⟩ ∧
      (store.fetch (transport 503) 4 select).result = .error (.status 503 (response 503 1).body) ∧
      (store.fetch (transport 503) 4 select).asked.getLast? = some ⟨2, 1⟩ ∧
      (store.fetch (transport 200) 4 { select with limit := some 5 }).asked = [⟨5, 0⟩] := by
  intro row item server store select response transport
  have responses : ∀ second ∈ [200, 503], ∀ offset ≤ 3,
      store.respond (transport second) select ⟨2, offset⟩ = .ok (response second offset) ∧
        ((response second offset).Brings (server.cut ⟨2, offset⟩ [item 1, item 2, item 3]) ∨
          (response second offset).isSuccess = false) := by
    decide +kernel
  have served (second : Nat) (known : second ∈ [200, 503]) :
      store.IsServed (transport second) select server [item 1, item 2, item 3] := by
    refine ⟨fun request => ?_, by decide +kernel, fun offset inside => ?_⟩
    · simp only [server]
      split_ifs <;> decide
    · obtain ⟨answered, answer⟩ := responses second known offset inside
      exact ⟨_, answered, answer.imp_right fun failure => ⟨_, .status failure⟩⟩
  have course (second : Nat) (known : second ∈ [200, 503]) :=
    (fetch_exact store (transport second) select).1 rfl (by decide) server
      [item 1, item 2, item 3] 4 (served second known) (by decide)
  have brought : ∀ page ∈ (store.fetch (transport 200) 4 select).asked,
      (store.fetchPage (transport 200) select page).isOk = true := by
    decide +kernel
  have unrefused : ∀ page ∈ (store.fetch (transport 200) 4 select).asked, ∀ cause,
      ¬ store.Refuses (transport 200) select page cause := by
    intro page member cause refuses
    have failure := brought page member
    rw [fetchPage_of_refuses refuses] at failure
    cases failure
  have second : (⟨2, 1⟩ : Rest.PageRequest) ∈ (store.fetch (transport 503) 4 select).asked := by
    decide +kernel
  have unavailable : (response 503 1).Refused (.status 503 (response 503 1).body) :=
    .status (by decide)
  have refuses : store.Refuses (transport 503) select ⟨2, 1⟩ (.status 503 (response 503 1).body) :=
    ⟨response 503 1, (responses 503 (by decide) 1 (by decide)).1, unavailable⟩
  obtain ⟨-, -, -, -, -, complete, -⟩ := course 200 (by decide)
  obtain ⟨-, -, -, -, -, -, refused⟩ := course 503 (by decide)
  obtain ⟨rows, last⟩ := complete unrefused
  obtain ⟨error, last'⟩ := refused ⟨2, 1⟩ second _ refuses
  obtain ⟨single, -⟩ :=
    (fetch_exact store (transport 200) { select with limit := some 5 }).2 5 4 rfl
  exact ⟨served, rows, last, error, last', single⟩

end RestStore

end ArgoQuery
