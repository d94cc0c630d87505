/-
**Searching.**

Main definitions:

* `Engine` — models, messages and settings;
* `Engine.plan`, `Engine.explain`, `Engine.search` — the plan of a query, the explanation of its
  first token, and a page of the cards that it wants.
-/

import CardQuery.Search.Plan
import CardQuery.Store.Page

set_option autoImplicit false

namespace CardQuery

/-- Models, messages and settings. -/
structure Engine where
  registry : Registry
  catalog : Catalog
  settings : SearchSettings

/-- The answer to a query. -/
structure SearchResponse where
  plan : Plan
  result : PageResult

/-- The page that a query asks for: at least the first, and of a size between one and the most. -/
def SearchSettings.request (s : SearchSettings) (o : SearchOptions) (sort : Option SortKey) :
    PageRequest where
  page := max 1 (o.page.getD 1)
  pageSize := min (max 1 (o.pageSize.getD s.defaultPageSize)) (max 1 s.maxPageSize)
  sort := sort

namespace Engine

/-- The model with an id. -/
def model (e : Engine) (id : String) : Except SearchFailure Model :=
  match e.registry.get? id with
  | some m => .ok m
  | none => .error (.unknownModel id)

/-- The plan of a query. -/
def plan (e : Engine) (model query : String) : Except SearchFailure Plan :=
  (e.model model).map fun m => m.plan e.catalog e.settings.emptyQuery query

/-- The explanation of the first piece of a query; one that is no argument has none. -/
def explain (e : Engine) (model query : String) : Except SearchFailure (Option String) :=
  (e.model model).map fun m =>
    match pieces query with
    | ⟨span, .ok token⟩ :: _ =>
      match m.resolve token with
      | .ok argument => argument.explain e.catalog span
      | .error _ => none
    | _ => none

/-- A page of the cards that a query wants; without a predicate the store is not asked. -/
def search (e : Engine) (store : Store) (model query : String) (options : SearchOptions) :
    Except SearchFailure SearchResponse := do
  let plan ← e.plan model query
  match plan.predicate with
  | none => return ⟨plan, .empty⟩
  | some p =>
    match store.fetch model p (e.settings.request options plan.sort) with
    | .ok result => return ⟨plan, result⟩
    | .error (.failed error) => throw (.storeUnavailable error.causes)
    | .error .aborted => throw .aborted

end Engine

end CardQuery
