/-
**Cards in a table.**

A table has a column for the JSON text of a card and one for its model.  Names of tables and columns
become part of statements and are therefore plain identifiers; everything else is passed beside the
text.

Main definitions:

* `TableNames`, `isIdentifier` — the names of a table and its columns;
* `TableStore`, `TableStore.insert` — the rows of a table;
* `TableStore.fetch` — a page of the cards that meet a predicate.
-/

import CardQuery.Json.Reader
import CardQuery.Sql.Condition
import CardQuery.Sql.Evaluation
import CardQuery.Sql.Statement
import CardQuery.Store.Order
import CardQuery.Store.Page

set_option autoImplicit false

namespace CardQuery

/-- The names of a table and its columns. -/
structure TableNames where
  table : String
  dataColumn : String
  modelColumn : String
deriving DecidableEq, Repr, Inhabited

/-- The usual names. -/
def TableNames.standard : TableNames := ⟨"cards", "data", "game"⟩

/-- A plain identifier: letters, digits and underscores, no digit first. -/
def isIdentifier (name : String) : Bool :=
  match name.toList with
  | [] => false
  | c :: rest => (c.isAlpha || c == '_') && rest.all fun d => d.isAlphanum || d == '_'

/-- Checks the names in order. -/
def TableNames.check (n : TableNames) : Except StoreError Unit :=
  match [n.table, n.dataColumn, n.modelColumn].find? fun name => !isIdentifier name with
  | some name => .error ⟨["Invalid SQL identifier: " ++ name]⟩
  | none => .ok ()

/-- A row: the model and the text of a card. -/
structure TableRow where
  model : String
  card : Json
  text : String
deriving Inhabited

/-- The rows of a table, in the order in which they came. -/
structure TableStore where
  names : TableNames
  rows : List TableRow
deriving Inhabited

/-! ### Statements -/

namespace Sql

/-- The value that a card is ordered by. -/
def sortValue (key : String) (card : Json) : Except EvalError Value :=
  (Expr.extract key).eval ⟨card, .null⟩

/-- Number of cards to be skipped: offsets from `2^63` on are negative and skip nothing. -/
def skipped (offset : Nat) : Nat := if fitsInt64 offset then offset else 0

end Sql

open Sql

namespace TableStore

/-- A table without rows; its names are identifiers. -/
def create (names : TableNames) : Except StoreError TableStore :=
  names.check.map fun _ => ⟨names, []⟩

/-- Adds a card. -/
def insert (s : TableStore) (model : String) (card : Json) : TableStore :=
  { s with rows := s.rows ++ [⟨model, card, card.compact⟩] }

/-- The rows of a model whose cards meet a condition. -/
def hits (s : TableStore) (model : String) (e : Expr) : Except EvalError (List TableRow) :=
  (s.rows.filter fun row => row.model == model).filterM fun row => e.holds row.card

/-- Rows in the order of a sort key; rows that are not told apart keep their order. -/
def arrange (key : SortKey) (rows : List TableRow) : Except EvalError (List TableRow) := do
  let keyed ← rows.mapM fun row => return (← sortValue key.key row.card, row)
  let order (a b : Value × TableRow) : Ordering :=
    if key.descending then (a.1.order b.1).swap else a.1.order b.1
  return (insertionSort order keyed).map (·.2)

/-- Rows in the order that a request asks for. -/
def arrangeBy (sort : Option SortKey) (rows : List TableRow) : Except EvalError (List TableRow) :=
  match sort with
  | none => .ok rows
  | some key => arrange key rows

/-- The statement that counts the cards failed. -/
def countFailed : FetchFailure := .failed ⟨["Failed to count matching cards"]⟩

/-- The statement that reads the cards failed. -/
def fetchFailed : FetchFailure := .failed ⟨["Failed to fetch matching cards"]⟩

/-- The card that a row holds. -/
def TableRow.read (row : TableRow) : Except FetchFailure Json :=
  match Json.read? row.text with
  | some card => .ok card
  | none => .error (.failed ⟨["Stored card is not valid JSON"]⟩)

/-- A page of the cards of a model that meet a predicate: one statement counts them, and a second
one reads the page. -/
def fetch (s : TableStore) (model : String) (p : Predicate) (r : PageRequest) :
    Except FetchFailure PageResult := do
  let e := p.toSql
  unless canPrepare s.names.dataColumn e 1 do throw countFailed
  let hits ← (s.hits model e).mapError fun _ => countFailed
  let sortKeys := r.sort.toList.map (·.key)
  unless canPrepare s.names.dataColumn e 3 && sortKeys.all isContained do throw fetchFailed
  let rows ← (arrangeBy r.sort hits).mapError fun _ => fetchFailed
  let page := (rows.drop (skipped r.offset)).take r.pageSize
  return ⟨← page.mapM TableRow.read, hits.length⟩

/-- The table as a store. -/
def store (s : TableStore) : Store := ⟨s.fetch⟩

end TableStore

end CardQuery
