/-
**Plans.**

The plan of a query says which cards are wanted and in which order: the conjunction of the
conditions of its tokens, and the first order that a token asks for.  A token that cannot be used
leaves an error and changes nothing else.

Main definitions:

* `Planned` — what the pieces of a query come to;
* `Plan`, `Model.plan` — the plan of a query.
-/

import CardQuery.Search.Settings
import CardQuery.Search.View

set_option autoImplicit false

namespace CardQuery

/-- What pieces of a query come to: their views, the errors, the conditions and the order. -/
structure Planned where
  views : List CommandView
  errors : List SearchError
  filters : List Predicate
  sort : Option SortKey
deriving Inhabited

namespace Planned

/-- Nothing. -/
def empty : Planned := ⟨[], [], [], none⟩

/-- A piece that failed with an error. -/
def addFailed (p : Planned) (v : CommandView) (stage : Stage) (e : SearchError) : Planned :=
  { p with views := p.views ++ [v.failed stage], errors := p.errors ++ [e] }

/-- A token with a meaning; a second order is an error. -/
def addMeaning (p : Planned) (v : CommandView) (a : Argument) : Meaning → Planned
  | .filter f => { p with views := p.views ++ [v], filters := p.filters ++ [f] }
  | .sort key =>
    if p.sort.isSome then
      p.addFailed v .compiling (.invalid a.command.id a.operand.content .secondSort)
    else { p with views := p.views ++ [v], sort := some key }

/-- A further piece of a query. -/
def add (query : String) (c : Catalog) (p : Planned) : Treated → Planned
  | .malformed span e => p.addFailed (.bare query span) .parsing e
  | .unresolved span t e => p.addFailed (.ofToken query span t) .resolving e
  | .resolved span t a (.error e) => p.addFailed (.ofArgument query c span t a) .compiling e
  | .resolved span t a (.ok meaning) => p.addMeaning (.ofArgument query c span t a) a meaning

end Planned

/-- Which cards a query wants, and in which order. -/
structure Plan where
  text : String
  commands : List CommandView
  errors : List SearchError
  predicate : Option Predicate
  sort : Option SortKey
deriving Inhabited

/-- The predicate of a query with the given conditions. -/
def EmptyQuery.predicate (e : EmptyQuery) (filters : List Predicate) : Option Predicate :=
  if filters.isEmpty then
    match e with
    | matchAll => some .everything
    | noPredicates => none
  else some (.conjunction filters)

/-- The plan of a query. -/
def Model.plan (m : Model) (c : Catalog) (e : EmptyQuery) (query : String) : Plan :=
  let planned := ((pieces query).map m.treat).foldl (Planned.add query c) .empty
  { text := query
    commands := planned.views
    errors := planned.errors
    predicate := e.predicate planned.filters
    sort := planned.sort }

end CardQuery
