import ArgoQuery.Http.Header
import ArgoQuery.Http.Url

/-!
# Requests, responses and transports

A transport answers a request or fails to. It is a function: what a server holds does not change
while a query runs, and no two requests of a query are the same.
-/

namespace ArgoQuery.Http

/-- The methods that requests are made with. -/
inductive Method where
  | get
  | post
deriving DecidableEq, Repr

/-- What is sent to a server. -/
structure Request where
  method : Method
  url : Url
  headers : Headers
  body : Option Json

/-- What a server answers. -/
structure Response where
  status : Nat
  body : String
deriving DecidableEq, Repr

/-- Whether the status of a response says that the request succeeded. -/
def Response.isSuccess (response : Response) : Bool :=
  decide (200 ≤ response.status) && decide (response.status < 300)

/-- Why there is no usable response. -/
inductive TransportFault where
  | malformedAddress
  /-- The address names no host, or its scheme is not one that requests are sent by. -/
  | refusedAddress (url : Url)
  | unreachable (url : Url)
  | undecodable
deriving DecidableEq, Repr

/-- What a user is told of a request without a response. -/
def TransportFault.message : TransportFault → String
  | malformedAddress => "builder error"
  | refusedAddress url => "builder error for url (" ++ url.text ++ ")"
  | unreachable url => "error sending request for url (" ++ url.text ++ ")"
  | undecodable => "error decoding response body"

/-- A request to a written address, names and values being added to its query string if it names a
host. -/
def Request.toAddress (method : Method) (address : String) (pairs : List (String × String))
    (headers : Headers) (body : Option Json) : Except TransportFault Request :=
  match Url.ofText? address with
  | none => .error .malformedAddress
  | some url =>
    let extended := if pairs.isEmpty then url else url.withPairs pairs
    if !url.hasHost then .error (.refusedAddress url)
    else if !url.isHttp then .error (.refusedAddress extended)
    else .ok ⟨method, extended, headers, body⟩

/-- The network, as the response that each request gets. -/
abbrev Transport := Request → Except TransportFault Response

/-- The transport of a machine without a network. -/
def Transport.offline : Transport := fun request => .error (.unreachable request.url)

end ArgoQuery.Http
