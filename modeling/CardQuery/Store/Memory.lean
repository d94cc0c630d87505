/-
**Cards in memory.**

Main definitions:

* `MemoryStore` — cards by model, in the order in which they came;
* `MemoryStore.insert`, `MemoryStore.insertAll`, `MemoryStore.read?` — filling a store;
* `MemoryStore.matching?`, `MemoryStore.fetch` — the cards that meet a predicate, and a page of them.
-/

import CardQuery.Error
import CardQuery.Json.Reader
import CardQuery.Store.Order
import CardQuery.Store.Page

set_option autoImplicit false

namespace CardQuery

/-- Cards by model, in the order in which they came. -/
structure MemoryStore where
  cards : KeyedList (List Json)
deriving Inhabited

namespace MemoryStore

/-- No cards. -/
def empty : MemoryStore := ⟨[]⟩

/-- The cards of a model. -/
def cardsOf (s : MemoryStore) (model : String) : List Json := (s.cards.find? model).getD []

/-- Adds cards to a model. -/
def insertAll (s : MemoryStore) (model : String) (cards : List Json) : MemoryStore :=
  ⟨s.cards.insert model (s.cardsOf model ++ cards)⟩

/-- Adds a card to a model. -/
def insert (s : MemoryStore) (model : String) (card : Json) : MemoryStore :=
  s.insertAll model [card]

/-- The store of a document: an object with a list of cards for every model. -/
def ofJson? : Json → Option MemoryStore
  | .object fields => (fields.mapM fun e => (Json.asList? e.2).map fun cards => (e.1, cards)).map .mk
  | _ => none

/-- The store of a text. -/
def read? (text : String) : Option MemoryStore := (Json.read? text).bind ofJson?

/-- The error of a malformed regular expression. -/
def malformedRegex (pattern : String) : StoreError :=
  ⟨["Invalid regular expression " ++ pattern, Reason.malformedRegex.text]⟩

/-- The cards of a model that meet a predicate. -/
def matching? (s : MemoryStore) (model : String) (p : Predicate) : Except StoreError (List Json) :=
  match p.test? with
  | .ok test => .ok ((s.cardsOf model).filter test)
  | .error pattern => .error (malformedRegex pattern)

/-- A page of cards in order; there is none when the sort gives up. -/
def pageOf (r : PageRequest) : Option (List Json) → Except FetchFailure PageResult
  | some cards => .ok (.ofList r cards)
  | none => .error .aborted

/-- A page of the cards of a model that meet a predicate. -/
def fetch (s : MemoryStore) (model : String) (p : Predicate) (r : PageRequest) :
    Except FetchFailure PageResult :=
  match s.matching? model p with
  | .error error => .error (.failed error)
  | .ok hits => pageOf r (arrangeBy? r.sort hits)

/-- The cards in memory as a store. -/
def store (s : MemoryStore) : Store := ⟨s.fetch⟩

end MemoryStore

end CardQuery
