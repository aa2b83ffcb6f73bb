import ArgoQuery.Json.Reader
import ArgoQuery.Rest.Paging
import ArgoQuery.Settings

/-!
# A store behind a REST interface

Every collection has an address, a select is its query string, and a page is chosen by `limit` and
`offset`. A select without a limit of its own is fetched page by page.
-/

namespace ArgoQuery

/-- A store behind a REST interface, its address and headers made ready. -/
structure RestStore where
  base : String
  headers : Http.Headers
  pageSize : Nat
  /-- The collection that is asked for when all that counts is whether there is an answer. -/
  healthCollection : String
deriving DecidableEq, Repr

namespace RestStore

/-- The store that the settings describe. -/
def ofSettings (settings : StoreSettings) : Except StoreError RestStore :=
  if settings.pageSize = 0 then .error .pageSizeZero
  else
    match Http.Headers.forStore settings.apiKey settings.defaultHeaders with
    | .error fault => .error (.header fault)
    | .ok headers => .ok {
        base := Text.withoutTrailingSlashes settings.apiBase ++ settings.path
        headers
        pageSize := settings.pageSize
        healthCollection := settings.collections.floats }

/-- The request for a page of a select. -/
def request (store : RestStore) (select : Select) (page : Rest.PageRequest) :
    Except Http.TransportFault Http.Request :=
  let pairs := select.queryPairs ++
    [("limit", decimalText page.limit), ("offset", decimalText page.offset)]
  Http.Request.toAddress .get (store.base ++ "/" ++ select.collection) pairs store.headers none

/-- The rows in a response. -/
def read (response : Http.Response) : Except StoreError (List Row) :=
  if response.isSuccess then
    match Json.ofText? response.body with
    | none => .error (.transport .undecodable)
    | some payload =>
      match Row.listOfJson payload with
      | .ok rows => .ok rows
      | .error fault => .error (.payload fault)
  else .error (.status response.status response.body)

/-- Fetches a page. -/
def fetchPage (store : RestStore) (transport : Http.Transport) (select : Select)
    (page : Rest.PageRequest) : Except StoreError (List Row) :=
  match store.request select page with
  | .error fault => .error (.transport fault)
  | .ok request =>
    match transport request with
    | .error fault => .error (.transport fault)
    | .ok response => read response

/-- Fetches the rows of a select. -/
def fetch (store : RestStore) (transport : Http.Transport) (budget : Nat) (select : Select) :
    Rest.Paging :=
  let ask := store.fetchPage transport select
  match select.limit with
  | some limit => Rest.askOnce ask ⟨limit, 0⟩
  | none => Rest.follow ask store.pageSize budget 0

/-- The answers of a store over the network, as far as the budget of pages reaches. -/
def toStore (store : RestStore) (transport : Http.Transport) (budget : Nat) : Store :=
  fun select => (store.fetch transport budget select).result

/-- What is asked for to see whether there is an answer. -/
def probe (store : RestStore) : Select :=
  { collection := store.healthCollection, columns := ["float_id"], limit := some 1 }

/-- Whether the store answers. -/
def health (store : RestStore) (transport : Http.Transport) : Except StoreError Unit :=
  (store.fetchPage transport store.probe ⟨1, 0⟩).map fun _ => ()

end RestStore

end ArgoQuery
