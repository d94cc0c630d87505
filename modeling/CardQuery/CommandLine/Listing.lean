/-
**Lists for people.**

Main definitions:

* `padded` — a text in a column;
* `Command.listing` — a command of a model;
* `Plan.listing` — the statements and documents of a plan;
* `SearchResponse.listing` — the pieces of a query, its errors, and the names of the cards.
-/

import CardQuery.Filter
import CardQuery.Json.Writer
import CardQuery.Search.Document
import CardQuery.Sql.Condition

set_option autoImplicit false

namespace CardQuery

/-- A text with spaces after it up to a width, which longer texts exceed. -/
def padded (width : Nat) (s : String) : String :=
  s ++ String.ofList (List.replicate (width - s.length) ' ')

/-- A command of a model: id, kind, aliases and operators, and whether it takes tokens without a
field. -/
def Command.listing (c : Command) (m : Model) : String :=
  padded 12 c.id ++ " " ++ padded 14 c.kind.name ++ " "
    ++ padded 18 (String.intercalate "," c.aliases) ++ " "
    ++ String.intercalate " " (c.operators.map Operator.sign)
    ++ (if c.id == m.raw.id then " (raw)" else "")

/-- An error of a query. -/
def SearchError.listing (e : SearchError) : String := "error: " ++ e.message

/-- The statement and the document of a predicate. -/
def Predicate.listing (column : String) (p : Predicate) : List String :=
  ["SQL:      " ++ p.toSql.inlined column, "Document: " ++ p.toFilter.compact]

/-- The statement and the document of an order. -/
def SortKey.listing (column : String) (s : SortKey) : List String :=
  ["Sort:     " ++ s.toSql column, "          " ++ s.toFilter.compact]

/-- The errors of a plan, and the statements and documents that it comes to. -/
def Plan.listing (column : String) (p : Plan) : List String :=
  p.errors.map SearchError.listing ++
    match p.predicate with
    | none => ["No predicates; the query returns nothing"]
    | some predicate => predicate.listing column ++ p.sort.toList.flatMap (SortKey.listing column)

/-- A piece of a query with its explanation, or with the stage at which it failed. -/
def CommandView.listing (v : CommandView) : String :=
  "  " ++
    match v.failedAt, v.explanation with
    | some stage, _ => padded 24 v.text ++ " failed while " ++ stage.title
    | none, some explanation => padded 24 v.text ++ " " ++ explanation
    | none, none => v.text

/-- The name of a card. -/
def cardName (card : Json) : String := ((card.field? "name").bind Json.asText?).getD "?"

/-- The number of cards, and the names of those on the page. -/
def PageResult.listing (r : PageResult) : List String :=
  (Nat.repr r.total ++ " card(s) in 0 ms, showing " ++ Nat.repr r.rows.length)
    :: r.rows.map cardName

/-- The pieces of a query, its errors, and the cards that it wants. -/
def SearchResponse.listing (r : SearchResponse) : List String :=
  r.plan.commands.map CommandView.listing ++ r.plan.errors.map SearchError.listing
    ++ r.result.listing

end CardQuery
