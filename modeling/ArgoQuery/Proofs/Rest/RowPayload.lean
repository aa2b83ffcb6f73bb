import ArgoQuery.Proofs.Rest.PagedFetch

/-!
# Rows that are sent as JSON

A server sends a row as an object of its fields, and what arrives is the row with its fields sorted
by name. Main statement: `RestStore.read_of_sends`. Nothing else of a row changes on the way: a
whole number comes back as the whole number, a null as a null, and a text letter by letter. Of
fractional numbers it is assumed that each is what its own text stands for (`Row.IsLegible`).
-/

namespace ArgoQuery

namespace Http.Response

/-- Whether a response is a success whose payload reads like the text of the rows. -/
def Sends (response : Response) (rows : List Row) : Prop :=
  response.isSuccess = true ∧
    Json.ofText? response.body = Json.ofText? (Json.array (rows.map Row.toJson)).compact

end Http.Response

namespace RestStore

/-- The rows of a response are those that were sent, each with its fields sorted by name. -/
theorem read_of_sends {response : Http.Response} {rows : List Row}
    (sends : response.Sends rows) (legible : ∀ row ∈ rows, row.IsLegible) :
    read response = .ok (rows.map Row.byName) := by
  obtain ⟨success, same⟩ := sends
  rw [Row.ofText?_payload legible] at same
  have brought : Row.listOfJson (Row.payload rows) = .ok (rows.map Row.byName) :=
    Row.listOfJson_payload (fun row member => (legible row member).distinct)
      fun row member => (legible row member).isFinite
  rw [read, if_pos success, same]
  dsimp only
  rw [brought]

/-- Whether the response to every page of a select sends the server's page. -/
structure IsSent (store : RestStore) (transport : Http.Transport) (select : Select)
    (server : Rest.PageServer) : Prop where
  generous : server.IsGenerous
  pages : ∀ offset ≤ server.rows.length, ∃ response,
    store.respond transport select ⟨store.pageSize, offset⟩ = .ok response ∧
      response.Sends (server.page ⟨store.pageSize, offset⟩)

/-- A select without a limit brings the rows that are sent, whatever the sizes of the pages. -/
theorem toStore_of_isSent {store : RestStore} {transport : Http.Transport} {select : Select}
    {server : Rest.PageServer} (sent : store.IsSent transport select server)
    (unlimited : select.limit = none) (positive : 0 < store.pageSize)
    (legible : ∀ row ∈ server.rows, row.IsLegible) {budget : Nat}
    (enough : server.rows.length < budget) :
    store.toStore transport budget select = .ok (server.rows.map Row.byName) := by
  let arrived : Rest.PageServer := ⟨server.rows.map Row.byName, server.cap⟩
  have size : arrived.rows.length = server.rows.length := List.length_map ..
  have answered : ∀ offset ≤ arrived.rows.length,
      store.fetchPage transport select ⟨store.pageSize, offset⟩ =
        arrived.ask ⟨store.pageSize, offset⟩ := by
    intro offset inside
    obtain ⟨response, responded, sends⟩ := sent.pages offset (size ▸ inside)
    have held : ∀ row ∈ server.page ⟨store.pageSize, offset⟩, row.IsLegible :=
      fun row member => legible row (List.mem_of_mem_drop (List.mem_of_mem_take member))
    rw [fetchPage_of_respond responded, read_of_sends sends held, Rest.PageServer.ask,
      Rest.PageServer.page, Rest.PageServer.page, List.map_take, List.map_drop]
  have generous : arrived.IsGenerous := sent.generous
  have brought : (Rest.follow (store.fetchPage transport select) store.pageSize budget 0).result =
      .ok arrived.rows := Rest.follow_result positive generous answered (size ▸ enough)
  rw [toStore, fetch, unlimited]
  exact brought

end RestStore

end ArgoQuery
