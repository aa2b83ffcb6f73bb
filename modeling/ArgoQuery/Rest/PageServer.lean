import ArgoQuery.Rest.Paging

/-!
# Servers that send pages

A server holds rows in a fixed order and answers a request with those from the offset on: as many as
the request asks for, unless the server's own cap is lower. This is what a fetch page by page is
judged by.
-/

namespace ArgoQuery.Rest

/-- A server of pages. Its cap may differ from request to request. -/
structure PageServer where
  rows : List Row
  cap : PageRequest → Nat

namespace PageServer

/-- Whether the server sends something whenever there is something left and something is asked
for. -/
def IsGenerous (server : PageServer) : Prop := ∀ request, 0 < server.cap request

/-- The rows that answer a request. -/
def page (server : PageServer) (request : PageRequest) : List Row :=
  (server.rows.drop request.offset).take (min request.limit (server.cap request))

/-- The server as a way to ask for pages. -/
def ask (server : PageServer) (request : PageRequest) : Except StoreError (List Row) :=
  .ok (server.page request)

end PageServer

end ArgoQuery.Rest
