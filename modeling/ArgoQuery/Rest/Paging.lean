import ArgoQuery.Table.Store

/-!
# Fetching page by page

A server may return fewer rows than a page may hold, so only an empty page ends a fetch. The next
page starts after the rows received so far.
-/

namespace ArgoQuery.Rest

/-- A request for at most `limit` rows after the first `offset` ones. -/
structure PageRequest where
  limit : Nat
  offset : Nat
deriving DecidableEq, Repr

/-- A fetch: the pages it asked for, and its rows or the first error. -/
structure Paging where
  asked : List PageRequest
  result : Except StoreError (List Row)

/-- Asks for one page. -/
def askOnce (ask : PageRequest → Except StoreError (List Row)) (page : PageRequest) : Paging :=
  ⟨[page], ask page⟩

/-- Asks for pages until one is empty or fails. A fetch that asks for more than `budget` pages is
given up. -/
def follow (ask : PageRequest → Except StoreError (List Row)) (limit : Nat) :
    (budget offset : Nat) → Paging
  | 0, _ => ⟨[], .error .endless⟩
  | budget + 1, offset =>
    let page : PageRequest := ⟨limit, offset⟩
    match ask page with
    | .error cause => ⟨[page], .error cause⟩
    | .ok [] => ⟨[page], .ok []⟩
    | .ok rows =>
      let later := follow ask limit budget (offset + rows.length)
      ⟨page :: later.asked, later.result.map (rows ++ ·)⟩

end ArgoQuery.Rest
