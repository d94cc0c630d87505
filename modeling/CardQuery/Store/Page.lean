/-
**Pages of results.**

A store answers with one page of the cards that meet a predicate and with the number of all of them.
Pages are counted from 1, and page 0 is taken for the first.

Main definitions:

* `PageRequest`, `PageRequest.offset` — which page is wanted, and how many cards come before it;
* `PageResult` — a page;
* `StoreError`, `FetchFailure`, `Store` — why a store has no answer, and stores.
-/

import CardQuery.Predicate.Document

set_option autoImplicit false

namespace CardQuery

/-- Which page is wanted, and in which order. -/
structure PageRequest where
  page : Nat
  pageSize : Nat
  sort : Option SortKey
deriving DecidableEq, Repr, Inhabited

namespace PageRequest

/-- The number of cards before the page. -/
def offset (r : PageRequest) : Nat := (r.page - 1) * r.pageSize

/-- The request that a document is. -/
def ofJson? (j : Json) : Option PageRequest :=
  match Json.record? ["page", "pageSize"] ["sort"] j with
  | some [page, pageSize, sort] => do
    return ⟨← page.asNat32?, ← pageSize.asNat32?, ← Json.orNull? SortKey.ofJson? sort⟩
  | _ => none

end PageRequest

/-- A page of cards, and the number of cards on all pages. -/
structure PageResult where
  rows : List Json
  total : Nat
deriving Repr, Inhabited

namespace PageResult

/-- No cards. -/
def empty : PageResult := ⟨[], 0⟩

/-- The page of a list of cards. -/
def ofList (r : PageRequest) (cards : List Json) : PageResult :=
  ⟨(cards.drop r.offset).take r.pageSize, cards.length⟩

/-- The page as a document. -/
def toJson (r : PageResult) : Json :=
  .object [("rows", .list r.rows), ("total", .ofNat r.total)]

end PageResult

/-- What goes wrong with a store: the causes from the outermost on. -/
structure StoreError where
  causes : List String
deriving DecidableEq, Repr, Inhabited

namespace StoreError

/-- The causes in one line. -/
def message (e : StoreError) : String := String.intercalate ": " e.causes

/-- The outermost cause. -/
def outermost (e : StoreError) : String := e.causes.headD ""

/-- The error with a further cause around it. -/
def within (e : StoreError) (cause : String) : StoreError := ⟨cause :: e.causes⟩

end StoreError

/-- Why a store gives no page: something goes wrong, or it gives up and the whole program with it. -/
inductive FetchFailure where
  | failed (error : StoreError)
  | aborted
deriving DecidableEq, Repr, Inhabited

/-- A store of cards: it answers with a page of the cards of a model that meet a predicate. -/
structure Store where
  fetch : String → Predicate → PageRequest → Except FetchFailure PageResult

end CardQuery
