import ArgoQuery.Http.Message
import ArgoQuery.Table.Payload
import ArgoQuery.Table.Select

/-!
# Stores

A store answers a select with rows or with the reason why it cannot. No two selects of a query are
the same, so a store is a function, whatever its contents do between queries.
-/

namespace ArgoQuery

/-- Why a store gives no rows. -/
inductive StoreError where
  | transport (fault : Http.TransportFault)
  | header (fault : Http.HeaderFault)
  | status (code : Nat) (body : String)
  | pageSizeZero
  | payload (fault : PayloadFault)
  /-- The server went on sending pages beyond the number that a fetch may ask for. -/
  | endless
deriving DecidableEq, Repr

/-- What a user is told of a select without an answer. -/
def StoreError.message : StoreError → String
  | transport fault => fault.message
  | header fault => fault.message
  | status code body => "Store responded with status " ++ decimalText code ++ ": " ++ body
  | pageSizeZero => "store.page_size must be greater than zero."
  | payload fault => fault.message
  | endless => "Store kept sending pages."

/-- A store, as the answer that each select gets. -/
abbrev Store := Select → Except StoreError (List Row)

end ArgoQuery
