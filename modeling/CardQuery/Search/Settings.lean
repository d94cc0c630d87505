/-
**Settings of the search.**

Main definitions:

* `EmptyQuery` — what a query without conditions means;
* `SearchSettings`, `SearchOptions` — the settings of a search, and what one query may ask for.
-/

import CardQuery.Json.Record

set_option autoImplicit false

namespace CardQuery

/-- What a query without conditions means: all cards, or no search at all. -/
inductive EmptyQuery where
  | matchAll
  | noPredicates
deriving DecidableEq, Repr, Inhabited

namespace EmptyQuery

/-- The name of a meaning. -/
def name : EmptyQuery → String
  | matchAll => "match-all"
  | noPredicates => "no-predicates"

/-- The meaning with a name. -/
def ofName? (text : String) : Option EmptyQuery :=
  [matchAll, noPredicates].find? fun e => e.name == text

end EmptyQuery

/-- What holds for all queries. -/
structure SearchSettings where
  emptyQuery : EmptyQuery
  defaultPageSize : Nat
  maxPageSize : Nat
deriving DecidableEq, Repr, Inhabited

/-- The usual settings. -/
def SearchSettings.standard : SearchSettings := ⟨.matchAll, 20, 100⟩

/-- What one query asks for beside its text. -/
structure SearchOptions where
  page : Option Nat
  pageSize : Option Nat
deriving DecidableEq, Repr, Inhabited

namespace SearchOptions

/-- Nothing in particular. -/
def none : SearchOptions := ⟨.none, .none⟩

/-- The size of a page under one of its two names; both together are refused. -/
def pageSizeField? (fields : KeyedList Json) : Option Json :=
  match fields.find? "pageSize", fields.find? "page_size" with
  | .none, .none => some .null
  | some size, .none => some size
  | .none, some size => some size
  | some _, some _ => .none

/-- The options that a document is. -/
def ofJson? : Json → Option SearchOptions
  | .object fields => do
    let size ← pageSizeField? fields
    return ⟨← Json.orNull? Json.asNat32? ((KeyedList.find? fields "page").getD .null),
      ← Json.orNull? Json.asNat32? size⟩
  | .list [page, size] => do
    return ⟨← Json.orNull? Json.asNat32? page, ← Json.orNull? Json.asNat32? size⟩
  | _ => .none

end SearchOptions

end CardQuery
